/-
What the reader of data source names does with each part of a text.

The reader of `Dsn.Reader` makes its cuts one inside the other. This file takes it apart once and for
all, so that no later proof has to: `parse_of_slash` says that a text with a last slash is read by
reading its place, then its parameters, and then putting in what was left out, and each of these three
steps has one lemma for its success and one for its faults. The parts themselves are named by the sides
of the separators (`Proofs.Text.Cut`): the login stands before the last at-sign of the server, the place
after it, the database before the first question mark of the target, the parameters after it.
-/
import MysqlDesk.Dsn.Reader
import MysqlDesk.Proofs.Dictionary
import MysqlDesk.Proofs.Text.Cut
import MysqlDesk.Proofs.Traversal

set_option autoImplicit false

namespace MysqlDesk.Dsn

open MysqlDesk.Text

/-! ## The login -/

theorem readLogin_eq (login : List Char) :
    readLogin login
      = (String.ofList (beforeFirst ':' login), String.ofList (afterFirst ':' login)) := by
  by_cases hcolon : ':' ∈ login
  · obtain ⟨user, password, rfl, huser⟩ := List.eq_append_cons_of_mem hcolon
    obtain ⟨hbefore, hafter⟩ := sides_append huser password
    rw [readLogin, cutFirst?_append huser, hbefore, hafter]
  · obtain ⟨hbefore, hafter⟩ := sides_of_not_mem hcolon
    rw [readLogin, cutFirst?_eq_none.2 hcolon, hbefore, hafter]

/-! ## The place -/

/-- A place is a network alone, or a network with an address in parentheses. -/
def IsPlace (place net address : List Char) : Prop :=
  ('(' ∉ place ∧ net = place ∧ address = [])
    ∨ ('(' ∉ net ∧ place = net ++ '(' :: (address ++ [')']))

theorem readPlace_of_isPlace {place net address : List Char} (h : IsPlace place net address) :
    readPlace place = .ok (String.ofList net, String.ofList address) := by
  rcases h with ⟨hplace, rfl, rfl⟩ | ⟨hnet, rfl⟩
  · rw [readPlace, cutFirst?_eq_none.2 hplace]
  · have hlast : (address ++ [')']).getLast? = some ')' := List.getLast?_concat
    rw [readPlace, cutFirst?_append hnet]
    simp only [hlast, if_true, List.dropLast_concat]

/-- A place is faulty when it has a parenthesis and does not end with one that closes it. -/
theorem readPlace_of_unclosed {place : List Char} (hopen : '(' ∈ place)
    (hlast : place.getLast? ≠ some ')') :
    readPlace place
      = .error (if ')' ∈ afterFirst '(' place then .textAfterAddress else .addressNotClosed) := by
  obtain ⟨net, rest, rfl, hnet⟩ := List.eq_append_cons_of_mem hopen
  -- the address ends where the place does, unless nothing stands behind the parenthesis
  have hrest : rest.getLast? ≠ some ')' := by
    intro h
    apply hlast
    rw [List.getLast?_append, List.getLast?_cons, h]
    rfl
  rw [(sides_append hnet rest).2, readPlace, cutFirst?_append hnet]
  simp only [if_neg hrest]
  by_cases hmem : ')' ∈ rest
  · rw [if_pos hmem, if_pos hmem]
  · rw [if_neg hmem, if_neg hmem]

theorem exists_isPlace {place : List Char} (h : '(' ∈ place → place.getLast? = some ')') :
    ∃ net address, IsPlace place net address := by
  by_cases hopen : '(' ∈ place
  · -- the parenthesis at the end is not the one that opens the address
    obtain ⟨net, rest, rfl, hnet⟩ := List.eq_append_cons_of_mem hopen
    have hlast := h hopen
    rw [List.getLast?_append, List.getLast?_cons] at hlast
    cases hrest : rest.getLast? with
    | none =>
      rw [hrest] at hlast
      exact absurd (Option.some.inj hlast) (by decide)
    | some last =>
      rw [hrest] at hlast
      have hclose : last = ')' := Option.some.inj hlast
      obtain ⟨address, rfl⟩ := List.getLast?_eq_some_iff.1 hrest
      exact ⟨net, address, Or.inr ⟨hnet, by rw [hclose]⟩⟩
  · exact ⟨place, [], Or.inl ⟨hopen, rfl, rfl⟩⟩

/-! ## The parameters -/

/-- The pieces of a query that are parameters: those between the ampersands that are not empty. -/
def writtenParams (query : List Char) : List (List Char) :=
  (query.splitOn '&').filter fun piece => !piece.isEmpty

/-- Key and value of a parameter. -/
def paramPair (param : List Char) : String × String :=
  (String.ofList (beforeFirst '=' param), String.ofList (afterFirst '=' param))

theorem mem_writtenParams_iff {query param : List Char} :
    param ∈ writtenParams query ↔ param ∈ query.splitOn '&' ∧ param ≠ [] := by
  rw [writtenParams, List.mem_filter]
  cases param <;> simp

theorem readParam_of_mem {param : List Char} (h : '=' ∈ param) :
    readParam param = .ok (paramPair param) := by
  obtain ⟨key, value, rfl, hkey⟩ := List.eq_append_cons_of_mem h
  obtain ⟨hbefore, hafter⟩ := sides_append hkey value
  rw [readParam, cutFirst?_append hkey, paramPair, hbefore, hafter]

theorem readParam_of_not_mem {param : List Char} (h : '=' ∉ param) :
    readParam param = .error (.badParam (String.ofList param)) := by
  rw [readParam, cutFirst?_eq_none.2 h]

/-- Parameters that all have an equals sign are read one by one. -/
theorem mapM_readParam_of_forall {params : List (List Char)} (h : ∀ p ∈ params, '=' ∈ p) :
    params.mapM readParam = .ok (params.map paramPair) := by
  rw [mapM_eq_ok_iff, List.forall₂_map_right_iff, List.forall₂_same]
  exact fun p hp => readParam_of_mem (h p hp)

/-- The first parameter without an equals sign is the fault of all of them. -/
theorem mapM_readParam_of_bad {before after : List (List Char)} {param : List Char}
    (h : ∀ p ∈ before, '=' ∈ p) (hbad : '=' ∉ param) :
    (before ++ param :: after).mapM readParam = .error (.badParam (String.ofList param)) := by
  rw [mapM_eq_error_iff]
  exact ⟨before, param, after, rfl, fun p hp => ⟨_, readParam_of_mem (h p hp)⟩,
    readParam_of_not_mem hbad⟩

theorem readParams_eq_mapM (query : List Char) :
    readParams query = (writtenParams query).mapM readParam := by
  rw [readParams, pieces_eq_splitOn]
  rfl

/-! ## The whole text -/

/-- The fields of a text as they are written, by the server and the target that its last slash
divides, the place and the parameters. -/
def writtenFields (server target : List Char) (place : String × String)
    (params : List (String × String)) : Dsn where
  user := String.ofList (beforeFirst ':' (beforeLast '@' server))
  password := String.ofList (afterFirst ':' (beforeLast '@' server))
  net := place.1
  address := place.2
  database := String.ofList (beforeFirst '?' target)
  params := Dictionary.ofPairs params

theorem readFields_of_slash (server : List Char) {target : List Char} (h : '/' ∉ target) :
    readFields (server ++ '/' :: target)
      = (readPlace (afterLast '@' server)).bind fun place =>
          (readParams (afterFirst '?' target)).map (writtenFields server target place) := by
  have hlogin : (cutLast? '@' server).getD ([], server)
      = (beforeLast '@' server, afterLast '@' server) := getD_cutLast? '@' server
  have hquery : (cutFirst? '?' target).getD (target, [])
      = (beforeFirst '?' target, afterFirst '?' target) := getD_cutFirst? '?' target
  rw [readFields, cutLast?_append h]
  simp only [readServer, readTarget, hlogin, hquery, readLogin_eq]
  cases readPlace (afterLast '@' server) with
  | error f => rfl
  | ok place => cases readParams (afterFirst '?' target) <;> rfl

/-- **Reading a text with a slash** is reading its place, then its parameters, and putting in what was
left out. -/
theorem parse_of_slash {s : String} {server target : List Char}
    (hs : s.toList = server ++ '/' :: target) (h : '/' ∉ target) :
    parse s = (readPlace (afterLast '@' server)).bind fun place =>
      (readParams (afterFirst '?' target)).bind fun params =>
        normalize (writtenFields server target place params) := by
  rw [parse, hs, readFields_of_slash server h]
  cases readPlace (afterLast '@' server) with
  | error f => rfl
  | ok place => cases readParams (afterFirst '?' target) <;> rfl

/-- A text without a slash is the empty one or no name. -/
theorem parse_of_not_mem {s : String} (h : '/' ∉ s.toList) :
    parse s = if s = "" then normalize blank else .error .missingSlash := by
  rw [parse, readFields, cutLast?_eq_none.2 h]
  by_cases hs : s = ""
  · rw [if_pos hs, hs]
    rfl
  · have hne : s.toList ≠ [] := fun hnil => hs (String.toList_eq_nil_iff.1 hnil)
    rw [if_neg hs]
    simp only [if_neg hne]
    rfl

theorem parse_ne_ok {s : String} {f : Fault} (h : parse s = .error f) (d : Dsn) :
    parse s ≠ .ok d := by
  intro hd
  rw [h] at hd
  cases hd

theorem exists_target {s : List Char} (h : '/' ∈ s) :
    ∃ server target, s = server ++ '/' :: target ∧ '/' ∉ target := by
  cases hcut : cutLast? '/' s with
  | none => exact absurd h (cutLast?_eq_none.1 hcut)
  | some sides => exact ⟨sides.1, sides.2, cutLast?_eq_some hcut⟩

/-! ## Defaults -/

/-- Whether a network has a usual address. -/
def HasDefault (net : String) : Prop :=
  net = "" ∨ net = "tcp" ∨ net = "unix"

/-- The network that is meant. -/
def effectiveNet (net : String) : String :=
  if net = "" then "tcp" else net

/-- The address that is meant, on a network with a name. -/
def effectiveAddress (net address : String) : String :=
  if address = "" then (if net = "tcp" then "127.0.0.1:3306" else "/tmp/mysql.sock")
  else if net = "tcp" ∧ hasPort address.toList = false then withDefaultPort address
  else address

/-- What was left out is put in where there is an address or a usual one. -/
theorem normalize_of_address {d : Dsn} (h : d.address ≠ "" ∨ HasDefault d.net) :
    normalize d = .ok { d with
      net := effectiveNet d.net
      address := effectiveAddress (effectiveNet d.net) d.address } := by
  obtain ⟨user, password, net, address, database, params⟩ := d
  simp only [normalize, effectiveAddress]
  rw [← effectiveNet]
  by_cases haddress : address = ""
  · -- no address, so the network has a usual one
    rw [if_pos haddress, if_pos haddress]
    have hnet : net = "" ∨ net = "tcp" ∨ net = "unix" := h.resolve_left fun hne => hne haddress
    rcases hnet with rfl | rfl | rfl <;> rfl
  · rw [if_neg haddress, if_neg haddress]
    by_cases hport : effectiveNet net = "tcp" ∧ hasPort address.toList = false
    · rw [if_pos hport, if_pos hport]
    · rw [if_neg hport, if_neg hport]

/-- Elsewhere the network is named. -/
theorem normalize_of_unknown {d : Dsn} (haddress : d.address = "") (h : ¬ HasDefault d.net) :
    normalize d = .error (.noDefaultAddress d.net) := by
  have hempty : d.net ≠ "" := fun hnet => h (Or.inl hnet)
  have htcp : d.net ≠ "tcp" := fun hnet => h (Or.inr (Or.inl hnet))
  have hunix : d.net ≠ "unix" := fun hnet => h (Or.inr (Or.inr hnet))
  simp only [normalize, if_neg hempty, if_pos haddress, defaultAddress, if_neg htcp, if_neg hunix]
  rfl

end MysqlDesk.Dsn
