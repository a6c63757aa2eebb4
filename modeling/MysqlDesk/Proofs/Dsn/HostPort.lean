/-
Where a name on `tcp` connects.

Host and port are written in one text, with the port behind the last colon. A host may have colons itself,
so it may stand in brackets; the port may be left out; and all of this is sorted out in three places. The
defaults look for a port behind a bracketed host, or behind the only colon, and put in the usual one, in
brackets of their own if there are colons. The last colon then divides host and port, and whatever
brackets there are around the host are taken off.

What the three places agree on is said once, by `Spelled`: the address that is meant is the host, in some
brackets, with the port behind a colon. Each form of an address is shown to be spelled so, and whatever is
spelled so leads to that host and port (`hostPort?_of_spelled`). `Reaches` lists the forms, and `Misses`
those whose port is none; the latter are names too, but nothing can connect to them.
-/
import MysqlDesk.Pool
import MysqlDesk.Proofs.Dsn.Login
import MysqlDesk.Proofs.Dsn.NormalForm
import MysqlDesk.Proofs.Text.Numeral

set_option autoImplicit false

namespace MysqlDesk.Dsn

open MysqlDesk.Text

/-! ## Ports and hosts -/

/-- The text is a port: a numeral of a number that is not too large, perhaps behind a plus sign. -/
def IsPort (s : List Char) (n : Nat) : Prop :=
  n ≤ 65535 ∧ (IsNumeral s n ∨ ∃ digits, s = '+' :: digits ∧ IsNumeral digits n)

/-- A host has a name without brackets, and no at-sign. -/
structure IsHost (host : String) : Prop where
  ne_empty : host ≠ ""
  noAtSign : '@' ∉ host.toList
  noOpening : '[' ∉ host.toList
  noClosing : ']' ∉ host.toList

theorem IsPort.not_mem {s : List Char} {n : Nat} (h : IsPort s n) {c : Char}
    (hdigit : c.isDigit = false) (hplus : c ≠ '+') : c ∉ s := by
  rcases h.2 with hnumeral | ⟨digits, rfl, hnumeral⟩
  · exact hnumeral.not_mem hdigit
  · rw [List.mem_cons, not_or]
    exact ⟨hplus, hnumeral.not_mem hdigit⟩

/-- Digits are read as the number of which they are a numeral, if that is not too large. -/
theorem readDigits_eq_some_iff {s : List Char} {n : Nat} :
    (if s = [] ∨ s.all isDigit = false then none
      else if portMax < ofDigits s then none
      else some (ofDigits s)) = some n ↔ n ≤ 65535 ∧ IsNumeral s n := by
  rw [isNumeral_iff]
  by_cases hdigits : s = [] ∨ s.all isDigit = false
  · rw [if_pos hdigits]
    refine iff_of_false (by simp) ?_
    rintro ⟨-, hne, hall, -⟩
    rcases hdigits with hnil | hnot
    · exact hne hnil
    · rw [hall] at hnot
      cases hnot
  · rw [if_neg hdigits]
    obtain ⟨hne, hall⟩ := not_or.1 hdigits
    by_cases hmax : portMax < ofDigits s
    · rw [if_pos hmax]
      refine iff_of_false (by simp) ?_
      rintro ⟨hle, -, -, rfl⟩
      exact absurd hmax (Nat.not_lt.2 hle)
    · rw [if_neg hmax, Option.some.injEq]
      constructor
      · rintro rfl
        exact ⟨Nat.not_lt.1 hmax, hne, Bool.not_eq_false _ ▸ hall, rfl⟩
      · exact fun h => h.2.2.2

/-- **Reading a port** gives the number that is written. -/
theorem readPort_eq_some_iff {s : List Char} {n : Nat} : readPort s = some n ↔ IsPort s n := by
  rw [IsPort]
  by_cases hplus : s.head? = some '+'
  · -- a plus sign is no digit, so the numeral is behind it
    obtain ⟨digits, rfl⟩ := List.head?_eq_some_iff.1 hplus
    refine (readDigits_eq_some_iff (s := digits)).trans (and_congr_right fun _ => ?_)
    refine ⟨fun h => Or.inr ⟨digits, rfl, h⟩, ?_⟩
    rintro (hnumeral | ⟨digits', hdigits, hnumeral⟩)
    · exact absurd List.mem_cons_self (hnumeral.not_mem (by decide))
    · rwa [(List.cons.inj hdigits).2]
  · rw [readPort]
    · refine readDigits_eq_some_iff.trans (and_congr_right fun _ => ⟨Or.inl, ?_⟩)
      rintro (hnumeral | ⟨digits, rfl, -⟩)
      · exact hnumeral
      · exact absurd rfl hplus
    · rintro digits rfl
      exact hplus rfl

theorem readPort_eq_none_iff {s : List Char} : readPort s = none ↔ ∀ n, ¬ IsPort s n := by
  rw [Option.eq_none_iff_forall_ne_some]
  exact forall_congr' fun n => not_congr readPort_eq_some_iff

/-! ## Brackets -/

/-- A run of some other character in front is all that is dropped. -/
theorem dropWhile_replicate_append {c : Char} {s : List Char} (hne : s ≠ []) (hc : c ∉ s)
    (k : Nat) (t : List Char) :
    (List.replicate k c ++ (s ++ t)).dropWhile (· == c) = s ++ t := by
  have hrun : ∀ d ∈ List.replicate k c, (d == c) = true := by
    intro d hd
    rw [List.eq_of_mem_replicate hd]
    exact beq_self_eq_true c
  rw [List.dropWhile_append_of_pos hrun]
  cases s with
  | nil => exact absurd rfl hne
  | cons d s =>
    have hd : ¬ (d == c) = true := by
      rw [beq_iff_eq]
      rintro rfl
      exact hc List.mem_cons_self
    exact List.dropWhile_cons_of_neg hd

/-- The brackets around a host are taken off, however many there are on either side. -/
theorem bareHost_of_brackets {host : List Char} (hne : host ≠ []) (hopening : '[' ∉ host)
    (hclosing : ']' ∉ host) (i j : Nat) :
    bareHost (List.replicate i '[' ++ (host ++ List.replicate j ']')) = host := by
  have hback : (host ++ List.replicate j ']').reverse
      = List.replicate j ']' ++ (host.reverse ++ []) := by
    rw [List.reverse_append, List.reverse_replicate, List.append_nil]
  rw [bareHost, dropWhile_replicate_append hne hopening, hback,
    dropWhile_replicate_append (List.reverse_ne_nil_iff.2 hne)
      (fun h => hclosing (List.mem_reverse.1 h)),
    List.append_nil, List.reverse_reverse]

/-! ## What an address says -/

/-- The address is the host, in some brackets, and the port behind a colon. -/
def Spelled (address host port : List Char) : Prop :=
  ∃ i j, address
    = (List.replicate i '[' ++ (host ++ List.replicate j ']')) ++ ':' :: port

/-- The last colon of an address on `tcp` divides host and port. -/
theorem hostPort?_of_cut {d : Dsn} (hnet : d.net = "tcp") {before port : List Char}
    (haddress : d.address.toList = before ++ ':' :: port) (hport : ':' ∉ port) :
    d.hostPort? = (readPort port).map fun n => (String.ofList (bareHost before), n) := by
  rw [hostPort?, if_pos hnet, haddress, cutLast?_append hport]
  simp only [Option.bind_eq_bind, Option.bind_some]
  cases readPort port <;> rfl

theorem hostPort?_of_spelled {d : Dsn} (hnet : d.net = "tcp") {host : String} (hhost : IsHost host)
    {port : List Char} {n : Nat} (hport : IsPort port n)
    (haddress : Spelled d.address.toList host.toList port) : d.hostPort? = some (host, n) := by
  obtain ⟨i, j, haddress⟩ := haddress
  have hne : host.toList ≠ [] := fun h => hhost.ne_empty (String.toList_eq_nil_iff.1 h)
  have hcolon : ':' ∉ port := hport.not_mem (by decide) (by decide)
  rw [hostPort?_of_cut hnet haddress hcolon, readPort_eq_some_iff.2 hport, Option.map_some,
    bareHost_of_brackets hne hhost.noOpening hhost.noClosing, String.ofList_toList]

/-! ## The address that is meant -/

theorem hasPort_of_brackets (host port : List Char) :
    hasPort ('[' :: (host ++ ']' :: ':' :: port)) = true := by
  rw [hasPort_cons_bracket, occursIn_iff]
  exact ⟨host, port, by simp⟩

/-- Without a bracket, a port stands behind the only colon. -/
theorem hasPort_of_colon {host port : List Char} (hfirst : host.head? ≠ some '[')
    (hhost : ':' ∉ host) (hport : ':' ∉ port) : hasPort (host ++ ':' :: port) = true := by
  have hhead : (host ++ ':' :: port).head? ≠ some '[' := by
    cases host with
    | nil => exact fun h => absurd (Option.some.inj h) (by decide)
    | cons c host => exact hfirst
  rw [hasPort_of_head hhead, List.count_append, List.count_cons_self, List.count_eq_zero.2 hhost,
    List.count_eq_zero.2 hport]
  rfl

theorem hasPort_of_brackets_alone {host : List Char} (hclosing : ']' ∉ host) :
    hasPort ('[' :: (host ++ [']'])) = false := by
  rw [hasPort_cons_bracket, ← Bool.not_eq_true, occursIn_iff]
  rintro ⟨front, back, h⟩
  -- the only closing bracket is the last character, so no colon follows it
  have hbracket : front ++ ']' :: ':' :: back = host ++ ']' :: [] := by
    rw [← h]
    simp
  rcases append_cons_eq_append_cons hbracket with ⟨-, -, hnil⟩ | ⟨m, hm, -⟩ | ⟨m, -, hnil⟩
  · cases hnil
  · exact hclosing (hm ▸ by simp)
  · exact absurd hnil (by simp)

/-- An address that lacks its port gets the usual one, and brackets if it has colons. -/
theorem toList_effectiveAddress_of_not_hasPort {address : String} (hne : address ≠ "")
    (hport : hasPort address.toList = false) :
    (effectiveAddress "tcp" address).toList
      = if ':' ∈ address.toList then '[' :: (address.toList ++ ']' :: ':' :: defaultPort.toList)
        else address.toList ++ ':' :: defaultPort.toList := by
  rw [effectiveAddress, if_neg hne, if_pos ⟨rfl, hport⟩, withDefaultPort]
  by_cases hcolon : ':' ∈ address.toList
  · rw [if_pos hcolon, if_pos hcolon, String.toList_append, String.toList_append,
      String.toList_append, List.append_assoc, List.append_assoc]
    rfl
  · rw [if_neg hcolon, if_neg hcolon, String.toList_append, String.toList_append,
      List.append_assoc]
    rfl

theorem effectiveAddress_of_hasPort {address : String} (hport : hasPort address.toList = true) :
    effectiveAddress "tcp" address = address := by
  have hne : address ≠ "" := by
    rintro rfl
    cases hport
  exact (effectiveAddress_eq_self_iff hne).2 fun _ => hport

/-! ## The forms of an address -/

/-- A place on `tcp` with this address. -/
def tcpPlace (address : String) : String :=
  "tcp(" ++ address ++ ")"

/-- An address with a bracketed host and a port. -/
def bracketed (host port : String) : String :=
  "[" ++ host ++ "]:" ++ port

/-- An address with a host and a port. -/
def unbracketed (host port : String) : String :=
  host ++ ":" ++ port

/-- The places that lead to a host and a port. -/
inductive Reaches : String → String → Nat → Prop where
  /-- A host in brackets, with its port. -/
  | bracketsAndPort {host port : String} {n : Nat} (hhost : IsHost host)
      (hport : IsPort port.toList n) : Reaches (tcpPlace (bracketed host port)) host n
  /-- A host without colons, with its port. -/
  | port {host port : String} {n : Nat} (hhost : IsHost host) (hcolon : ':' ∉ host.toList)
      (hport : IsPort port.toList n) : Reaches (tcpPlace (unbracketed host port)) host n
  /-- A host in brackets alone. -/
  | brackets {host : String} (hhost : IsHost host) :
      Reaches (tcpPlace ("[" ++ host ++ "]")) host 3306
  /-- A host alone, which must not look like a host with a port. -/
  | host {host : String} (hhost : IsHost host) (hcolons : host.toList.count ':' ≠ 1) :
      Reaches (tcpPlace host) host 3306
  /-- An address that is left empty. -/
  | emptyAddress : Reaches (tcpPlace "") "127.0.0.1" 3306
  /-- An address that is left out. -/
  | noAddress : Reaches "tcp" "127.0.0.1" 3306

/-- The text stands where a port is read, and is none. -/
structure IsNoPort (port : List Char) : Prop where
  noColon : ':' ∉ port
  noAtSign : '@' ∉ port
  noNumber : ∀ n, ¬ IsPort port n

/-- The addresses whose port cannot be read. -/
inductive Misses : String → Prop where
  /-- Behind a host in brackets. -/
  | bracketsAndPort {host port : String} (hat : '@' ∉ host.toList) (hport : IsNoPort port.toList) :
      Misses (bracketed host port)
  /-- Behind the only colon. -/
  | port {host port : String} (hat : '@' ∉ host.toList) (hcolon : ':' ∉ host.toList)
      (hfirst : host.toList.head? ≠ some '[') (hport : IsNoPort port.toList) :
      Misses (unbracketed host port)

theorem toList_bracketed (host port : String) :
    (bracketed host port).toList = '[' :: (host.toList ++ ']' :: ':' :: port.toList) := by
  rw [bracketed, String.toList_append, String.toList_append, String.toList_append,
    List.append_assoc, List.append_assoc]
  rfl

theorem toList_unbracketed (host port : String) :
    (unbracketed host port).toList = host.toList ++ ':' :: port.toList := by
  rw [unbracketed, String.toList_append, String.toList_append, List.append_assoc]
  rfl

theorem spelled_bracketed {host port : String} :
    Spelled (effectiveAddress "tcp" (bracketed host port)).toList host.toList port.toList := by
  have hport : hasPort (bracketed host port).toList = true := by
    rw [toList_bracketed]
    exact hasPort_of_brackets host.toList port.toList
  rw [effectiveAddress_of_hasPort hport, toList_bracketed]
  exact ⟨1, 1, by simp⟩

section Forms

variable {host port : String} (hhost : IsHost host)

include hhost

theorem IsHost.head?_ne : host.toList.head? ≠ some '[' := by
  intro hhead
  obtain ⟨rest, hrest⟩ := List.head?_eq_some_iff.1 hhead
  exact hhost.noOpening (hrest ▸ List.mem_cons_self)

theorem spelled_unbracketed (hhostColon : ':' ∉ host.toList) (hportColon : ':' ∉ port.toList) :
    Spelled (effectiveAddress "tcp" (unbracketed host port)).toList host.toList port.toList := by
  have hport : hasPort (unbracketed host port).toList = true := by
    rw [toList_unbracketed]
    exact hasPort_of_colon hhost.head?_ne hhostColon hportColon
  rw [effectiveAddress_of_hasPort hport, toList_unbracketed]
  exact ⟨0, 0, by simp⟩

/-- A host in brackets without a port gets a port, and more brackets if it has colons. -/
theorem spelled_brackets :
    Spelled (effectiveAddress "tcp" ("[" ++ host ++ "]")).toList host.toList
      defaultPort.toList := by
  have htext : ("[" ++ host ++ "]").toList = '[' :: (host.toList ++ [']']) := by
    rw [String.toList_append, String.toList_append]
    rfl
  have hport : hasPort ("[" ++ host ++ "]").toList = false := by
    rw [htext]
    exact hasPort_of_brackets_alone hhost.noClosing
  have hne : "[" ++ host ++ "]" ≠ "" := by
    intro h
    rw [h] at htext
    cases htext
  rw [toList_effectiveAddress_of_not_hasPort hne hport, htext]
  by_cases hcolon : ':' ∈ '[' :: (host.toList ++ [']'])
  · rw [if_pos hcolon]
    exact ⟨2, 2, by simp⟩
  · rw [if_neg hcolon]
    exact ⟨1, 1, by simp⟩

example : effectiveAddress "tcp" "[fe80::1]" = "[[fe80::1]]:3306" := by decide

/-- A host alone gets a port, and brackets if it has colons. -/
theorem spelled_host (hcolons : host.toList.count ':' ≠ 1) :
    Spelled (effectiveAddress "tcp" host).toList host.toList defaultPort.toList := by
  have hport : hasPort host.toList = false := by
    rw [hasPort_of_head hhost.head?_ne, beq_eq_false_iff_ne]
    exact hcolons
  rw [toList_effectiveAddress_of_not_hasPort hhost.ne_empty hport]
  by_cases hcolon : ':' ∈ host.toList
  · rw [if_pos hcolon]
    exact ⟨1, 1, by simp⟩
  · rw [if_neg hcolon]
    exact ⟨0, 0, by simp⟩

end Forms

/-! ## Reading a name on `tcp` -/

/-- The text of a name: behind the last at-sign its place, behind the last slash its target. -/
def named (login place target : String) : String :=
  withUser login (place ++ "/" ++ target)

/-- The parameters of a target can be read, and nothing in it looks like its end. -/
structure IsTarget (target : String) : Prop where
  noSlash : '/' ∉ target.toList
  params : ∀ param ∈ writtenParams (afterFirst '?' target.toList), '=' ∈ param

/-- A name is read if its place is, whatever the login before it. -/
theorem parse_named (login : String) {place target : String} (htarget : IsTarget target)
    (hat : '@' ∉ place.toList) {net address : List Char}
    (hplace : IsPlace place.toList net address)
    (hdefault : String.ofList address ≠ "" ∨ HasDefault (String.ofList net)) :
    ∃ d, parse (named login place target) = .ok d
      ∧ d.net = effectiveNet (String.ofList net)
      ∧ d.address = effectiveAddress d.net (String.ofList address) := by
  have htext : (named login place target).toList
      = (login.toList ++ '@' :: place.toList) ++ '/' :: target.toList := by
    rw [named, withUser, String.toList_append, String.toList_append, toList_rest, List.append_assoc,
      List.append_assoc]
    rfl
  have hafter := (sides_append_last hat login.toList).2
  rw [parse_of_slash htext htarget.noSlash, hafter, readPlace_of_isPlace hplace]
  show ∃ d, (readParams (afterFirst '?' target.toList)).bind _ = Except.ok d ∧ _
  rw [readParams_eq_mapM, mapM_readParam_of_forall htarget.params]
  exact ⟨_, normalize_of_address hdefault, rfl, rfl⟩

/-- The place is on `tcp`, with this address or, if that is empty, with none. -/
structure OnTcp (place address : String) : Prop where
  noAtSign : '@' ∉ place.toList
  place : IsPlace place.toList "tcp".toList address.toList

theorem onTcp_tcpPlace {address : String} (hat : '@' ∉ address.toList) :
    OnTcp (tcpPlace address) address := by
  have htext : (tcpPlace address).toList = "tcp".toList ++ '(' :: (address.toList ++ [')']) := by
    rw [tcpPlace, String.toList_append, String.toList_append]
    rfl
  refine ⟨?_, Or.inr ⟨by decide, htext⟩⟩
  rw [htext]
  simpa using hat

theorem onTcp_alone : OnTcp "tcp" "" :=
  ⟨by decide, Or.inl ⟨by decide, rfl, rfl⟩⟩

/-- An address on `tcp` is read as the one that is meant. -/
theorem parse_onTcp (login : String) {target place address : String} (htarget : IsTarget target)
    (htcp : OnTcp place address) :
    ∃ d, parse (named login place target) = .ok d ∧ d.net = "tcp"
      ∧ d.address = effectiveAddress "tcp" address := by
  have hdefault : HasDefault (String.ofList "tcp".toList) := Or.inr (Or.inl rfl)
  obtain ⟨d, hread, hnet, haddress⟩ :=
    parse_named login htarget htcp.noAtSign htcp.place (Or.inr hdefault)
  have hnet' : d.net = "tcp" := hnet
  rw [hnet', String.ofList_toList] at haddress
  exact ⟨d, hread, hnet', haddress⟩

/-! ## Connecting -/

/-- A name with this host and port connects to them. -/
theorem connects_of_spelled {d : Dsn} (hnet : d.net = "tcp") {host : String} (hhost : IsHost host)
    {port : List Char} {n : Nat} (hport : IsPort port n)
    (haddress : Spelled d.address.toList host.toList port) :
    d.hostPort? = some (host, n)
      ∧ ∃ o, ConnectOptions.ofDsn d = .ok o ∧ o.host = host ∧ o.port = n := by
  have hfound : d.hostPort? = some (host, n) := hostPort?_of_spelled hnet hhost hport haddress
  have hplace : ConnectOptions.place d
      = .ok { ConnectOptions.standard with host, port := n } := by
    rw [ConnectOptions.place, if_pos hnet, hfound]
  -- the rest of a name sets neither the host nor the port
  refine ⟨hfound, ?_⟩
  rw [ConnectOptions.ofDsn, hplace]
  exact ⟨_, rfl, rfl, rfl⟩

/-- A name with an address whose port is none connects to nothing. -/
theorem refused_of_no_port {d : Dsn} (hnet : d.net = "tcp") {before port : List Char}
    (haddress : d.address.toList = before ++ ':' :: port) (hport : IsNoPort port) :
    d.hostPort? = none ∧ ConnectOptions.ofDsn d = .error (.config (.badTcpAddress d.address)) := by
  have hnone : d.hostPort? = none := by
    rw [hostPort?_of_cut hnet haddress hport.noColon, readPort_eq_none_iff.2 hport.noNumber]
    rfl
  have hplace : ConnectOptions.place d = .error (.config (.badTcpAddress d.address)) := by
    rw [ConnectOptions.place, if_pos hnet, hnone]
  refine ⟨hnone, ?_⟩
  rw [ConnectOptions.ofDsn, hplace]
  rfl

theorem isPort_toString {n : Nat} (h : n ≤ 65535) : IsPort (toString n).toList n := by
  have htext : (toString n).toList = decimal n := by
    rw [Nat.toString_eq_ofList_toDigits, String.toList_ofList]
    rfl
  rw [htext]
  exact ⟨h, Or.inl (isNumeral_decimal n)⟩

theorem isPort_defaultPort : IsPort defaultPort.toList 3306 :=
  isPort_toString (n := 3306) (by decide)

theorem isHost_local : IsHost "127.0.0.1" where
  ne_empty := by decide
  noAtSign := by decide
  noOpening := by decide
  noClosing := by decide

theorem at_not_mem_bracketed {host port : String} (hhost : '@' ∉ host.toList)
    (hport : '@' ∉ port.toList) : '@' ∉ (bracketed host port).toList := by
  rw [toList_bracketed]
  simp [hhost, hport]

theorem at_not_mem_unbracketed {host port : String} (hhost : '@' ∉ host.toList)
    (hport : '@' ∉ port.toList) : '@' ∉ (unbracketed host port).toList := by
  rw [toList_unbracketed]
  simp [hhost, hport]

/-- Each of the forms says its host and port. -/
theorem spelled_of_reaches {place host : String} {n : Nat} (h : Reaches place host n) :
    IsHost host ∧ ∃ address port, OnTcp place address ∧ IsPort port n
      ∧ Spelled (effectiveAddress "tcp" address).toList host.toList port := by
  have hlocal : Spelled (effectiveAddress "tcp" "").toList "127.0.0.1".toList defaultPort.toList :=
    ⟨0, 0, by decide⟩
  cases h with
  | bracketsAndPort hhost hport =>
    have hat := at_not_mem_bracketed hhost.noAtSign (hport.not_mem (by decide) (by decide))
    exact ⟨hhost, _, _, onTcp_tcpPlace hat, hport, spelled_bracketed⟩
  | port hhost hcolon hport =>
    have hat := at_not_mem_unbracketed hhost.noAtSign (hport.not_mem (by decide) (by decide))
    have hportColon := hport.not_mem (c := ':') (by decide) (by decide)
    exact ⟨hhost, _, _, onTcp_tcpPlace hat, hport, spelled_unbracketed hhost hcolon hportColon⟩
  | brackets hhost =>
    have hat : '@' ∉ ("[" ++ host ++ "]").toList := by simp [hhost.noAtSign]
    exact ⟨hhost, _, _, onTcp_tcpPlace hat, isPort_defaultPort, spelled_brackets hhost⟩
  | host hhost hcolons =>
    exact ⟨hhost, _, _, onTcp_tcpPlace hhost.noAtSign, isPort_defaultPort,
      spelled_host hhost hcolons⟩
  | emptyAddress =>
    exact ⟨isHost_local, _, _, onTcp_tcpPlace (by decide), isPort_defaultPort, hlocal⟩
  | noAddress => exact ⟨isHost_local, _, _, onTcp_alone, isPort_defaultPort, hlocal⟩

/-- Whatever is said so is where the name leads. -/
theorem connects_of_reaches (login : String) {target : String} (htarget : IsTarget target)
    {place host : String} {n : Nat} (h : Reaches place host n) :
    ∃ d o, parse (named login place target) = .ok d ∧ d.hostPort? = some (host, n)
      ∧ ConnectOptions.ofDsn d = .ok o ∧ o.host = host ∧ o.port = n := by
  obtain ⟨hhost, address, port, htcp, hport, hspelled⟩ := spelled_of_reaches h
  obtain ⟨d, hread, hnet, haddress⟩ := parse_onTcp login htarget htcp
  rw [← haddress] at hspelled
  obtain ⟨hfound, o, hoptions, ho⟩ := connects_of_spelled hnet hhost hport hspelled
  exact ⟨d, o, hread, hfound, hoptions, ho⟩

/-- The other forms are read, and then refused. -/
theorem refused_of_misses (login : String) {target : String} (htarget : IsTarget target)
    {address : String} (h : Misses address) :
    ∃ d, parse (named login (tcpPlace address) target) = .ok d ∧ d.hostPort? = none
      ∧ ConnectOptions.ofDsn d = .error (.config (.badTcpAddress address)) := by
  -- a port, or what stands in its place, is there, so no other is put in
  suffices hcut : '@' ∉ address.toList ∧ hasPort address.toList = true
      ∧ ∃ before port, address.toList = before ++ ':' :: port ∧ IsNoPort port by
    obtain ⟨hat, hhas, before, port, htext, hport⟩ := hcut
    obtain ⟨d, hread, hnet, haddress⟩ := parse_onTcp login htarget (onTcp_tcpPlace hat)
    rw [effectiveAddress_of_hasPort hhas] at haddress
    obtain ⟨hnone, hrefused⟩ := refused_of_no_port hnet (by rw [haddress, htext]) hport
    exact ⟨d, hread, hnone, by rw [hrefused, haddress]⟩
  cases h with
  | @bracketsAndPort host port hat hport =>
    refine ⟨at_not_mem_bracketed hat hport.noAtSign, ?_, '[' :: (host.toList ++ [']']), port.toList,
      ?_, hport⟩
    · rw [toList_bracketed]
      exact hasPort_of_brackets host.toList port.toList
    · rw [toList_bracketed]
      simp
  | @port host port hat hcolon hfirst hport =>
    refine ⟨at_not_mem_unbracketed hat hport.noAtSign, ?_, host.toList, port.toList,
      toList_unbracketed host port, hport⟩
    rw [toList_unbracketed]
    exact hasPort_of_colon hfirst hcolon hport.noColon

/-- **Where a name on `tcp` connects.** Whatever the login and the target, a host with or without
brackets leads to itself and its port, to itself and the usual port if it has none, and an address
that is left out leads to the local host. A text in the place of a port that is no number up to the largest port
does not make the name unreadable, but nothing can connect to it. -/
theorem tcp_name_connects (login : String) {target : String} (htarget : IsTarget target) :
    (∀ place host n, Reaches place host n →
      ∃ d o, parse (named login place target) = .ok d ∧ d.hostPort? = some (host, n)
        ∧ ConnectOptions.ofDsn d = .ok o ∧ o.host = host ∧ o.port = n)
    ∧ (∀ address, Misses address →
      ∃ d, parse (named login (tcpPlace address) target) = .ok d ∧ d.hostPort? = none
        ∧ ConnectOptions.ofDsn d = .error (.config (.badTcpAddress address)))
    ∧ ∀ n, n ≤ 65535 → IsPort (toString n).toList n := by
  refine ⟨?_, ?_, ?_⟩
  · intro place host n h
    exact connects_of_reaches login htarget h
  · intro address h
    exact refused_of_misses login htarget h
  · intro n h
    exact isPort_toString h

theorem tcp_name_connects_six :
    IsTarget "shop?a=1"
    ∧ (∃ d o, parse "u:p@ss@tcp([fe80::1]:3307)/shop?a=1" = .ok d
      ∧ d.hostPort? = some ("fe80::1", 3307)
      ∧ ConnectOptions.ofDsn d = .ok o ∧ o.host = "fe80::1" ∧ o.port = 3307)
    ∧ (∃ d o, parse "u:p@ss@tcp(fe80::1)/shop?a=1" = .ok d
      ∧ d.hostPort? = some ("fe80::1", 3306)
      ∧ ConnectOptions.ofDsn d = .ok o ∧ o.host = "fe80::1" ∧ o.port = 3306)
    ∧ ∃ d, parse "u:p@ss@tcp([fe80::1]:33o6)/shop?a=1" = .ok d ∧ d.hostPort? = none
      ∧ ConnectOptions.ofDsn d = .error (.config (.badTcpAddress "[fe80::1]:33o6")) := by
  have htarget : IsTarget "shop?a=1" := ⟨by decide, by decide⟩
  have hhost : IsHost "fe80::1" := ⟨by decide, by decide, by decide, by decide⟩
  have hport : IsPort "3307".toList 3307 := readPort_eq_some_iff.1 (by decide)
  have hno : IsNoPort "33o6".toList := ⟨by decide, by decide, readPort_eq_none_iff.1 (by decide)⟩
  obtain ⟨hreaches, hmisses, -⟩ := tcp_name_connects "u:p@ss" htarget
  have hfirst := hreaches _ _ _ (.bracketsAndPort hhost hport)
  have hsecond := hreaches _ _ _ (.host hhost (by decide))
  have hthird := hmisses _ (.bracketsAndPort hhost.noAtSign hno)
  exact ⟨htarget, hfirst, hsecond, hthird⟩

end MysqlDesk.Dsn
