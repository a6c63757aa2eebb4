/-
What a filled template is.

A filling is stated here over the tokens of the statement and over the arguments as they are given, a
flat list of keys and values by turns. A key is supplied when it stands before a value, and its value
is that of its last place. The main statement, `substitute_eq_ok_iff`, is that a statement whose slots
are closed can be filled exactly when the supplied keys are those of its slots, and that the filling is
then its text with each slot exchanged for the value of its key. No value is looked at again: it comes
into the text after the statement was cut into tokens.
-/
import MysqlDesk.Proofs.Dictionary
import MysqlDesk.Proofs.Template.Octets

set_option autoImplicit false

namespace MysqlDesk.Template

/-! ## The arguments -/

/-- The value of the key `k` in a flat list of keys and values: the one at its last place. A key at
the end of the list has none. -/
def suppliedValue? : List String → String → Option String
  | key :: value :: rest, k => (suppliedValue? rest k).or (if k = key then some value else none)
  | _, _ => none

/-- The key comes before the value in a pair of the list, and in no later one. -/
def LastGiven (arguments : List String) (key value : String) : Prop :=
  ∃ i, arguments[2 * i]? = some key ∧ arguments[2 * i + 1]? = some value
    ∧ ∀ j, i < j → arguments[2 * j]? = some key → arguments[2 * j + 1]? = none

/-- A list that does not begin with a pair has none. -/
theorem getElem?_of_unpaired {arguments : List String}
    (hshort : ∀ key value rest, arguments = key :: value :: rest → False) (j : Nat) :
    arguments[2 * j + 1]? = none := by
  match arguments, hshort with
  | [], _ => rfl
  | [_], _ => rfl
  | key :: value :: rest, hshort => exact absurd rfl (hshort key value rest)

theorem suppliedValue?_eq_none_iff (arguments : List String) (key : String) :
    suppliedValue? arguments key = none ↔
      ∀ j, arguments[2 * j]? = some key → arguments[2 * j + 1]? = none := by
  fun_induction suppliedValue? arguments key with
  | case1 first value rest key ih =>
    rw [Option.or_eq_none_iff, ih]
    constructor
    · rintro ⟨hrest, hfirst⟩ j hj
      cases j with
      | zero =>
        rw [if_pos (Option.some.inj hj).symm] at hfirst
        cases hfirst
      | succ j => exact hrest j hj
    · intro h
      refine ⟨fun j hj => h (j + 1) hj, if_neg fun hkey => ?_⟩
      have hvalue := h 0 (congrArg some hkey.symm)
      cases hvalue
  | case2 arguments key hshort =>
    exact iff_of_true rfl fun j _ => getElem?_of_unpaired hshort j

theorem suppliedValue?_eq_some_iff (arguments : List String) (key value : String) :
    suppliedValue? arguments key = some value ↔ LastGiven arguments key value := by
  fun_induction suppliedValue? arguments key with
  | case1 first given rest key ih =>
    rw [Option.or_eq_some_iff, ih]
    constructor
    · rintro (⟨i, hkey, hvalue, hlast⟩ | ⟨hnone, hfirst⟩)
      · refine ⟨i + 1, hkey, hvalue, fun j hj hagain => ?_⟩
        cases j with
        | zero => omega
        | succ j => exact hlast j (by omega) hagain
      · -- the key does not come again, so it has the value of this pair
        rw [suppliedValue?_eq_none_iff] at hnone
        split at hfirst
        · rename_i hkey
          refine ⟨0, congrArg some hkey.symm, hfirst, fun j hj hagain => ?_⟩
          cases j with
          | zero => omega
          | succ j => exact hnone j hagain
        · cases hfirst
    · rintro ⟨i, hkey, hvalue, hlast⟩
      cases i with
      | zero =>
        refine .inr ⟨?_, ?_⟩
        · rw [suppliedValue?_eq_none_iff]
          exact fun j hagain => hlast (j + 1) (Nat.succ_pos j) hagain
        · rw [if_pos (Option.some.inj hkey).symm]
          exact hvalue
      | succ i =>
        exact .inl ⟨i, hkey, hvalue, fun j hj hagain => hlast (j + 1) (by omega) hagain⟩
  | case2 arguments key hshort =>
    refine iff_of_false (fun h => by cases h) fun ⟨i, _, hvalue, _⟩ => ?_
    rw [getElem?_of_unpaired hshort] at hvalue
    cases hvalue

/-- The dictionary of the arguments has the supplied values. -/
theorem get?_ofPairs_pairUp (arguments : List String) (k : String) :
    (Dictionary.ofPairs (pairUp arguments)).get? k = suppliedValue? arguments k := by
  rw [Dictionary.get?_ofPairs]
  fun_induction pairUp arguments with
  | case1 key value rest ih => rw [Dictionary.lastValue?, suppliedValue?, ih]
  | case2 arguments hshort =>
    rw [suppliedValue?]
    · rfl
    · exact hshort

/-! ## The slots and the values -/

/-- The text of a token in which a slot has the value of its key. -/
def Token.filled (value? : String → Option String) : Token → List Char
  | .literal c => [c]
  | .quotation text => text
  | .placeholder key => ((value? (String.ofList key)).getD "").toList

theorem slotKeys_append (ps qs : List Piece) : slotKeys (ps ++ qs) = slotKeys ps ++ slotKeys qs :=
  List.filterMap_append

theorem slotKeys_map_verbatim (text : List Char) : slotKeys (text.map .verbatim) = [] := by
  induction text with
  | nil => rfl
  | cons c text ih => exact ih

/-- The slots of the pieces are the placeholders of the tokens. -/
theorem slotKeys_flatMap_pieces (ts : List Token) :
    slotKeys (ts.flatMap Token.pieces) = placeholderKeys ts := by
  induction ts with
  | nil => rfl
  | cons t ts ih =>
    rw [List.flatMap_cons, slotKeys_append, ih]
    cases t with
    | literal c => rfl
    | quotation text => rw [Token.pieces, slotKeys_map_verbatim]; rfl
    | placeholder key => rfl

theorem flatMap_fillPiece_pieces (values : Dictionary String) (t : Token) :
    t.pieces.flatMap (fillPiece values) = t.filled values.get? := by
  cases t with
  | literal c => rfl
  | quotation text =>
    rw [Token.pieces, Token.filled, List.flatMap_map]
    exact List.flatMap_singleton' text
  | placeholder key => exact List.append_nil _

theorem mem_distinct_iff (keys : List String) (k : String) : k ∈ distinct keys ↔ k ∈ keys := by
  rw [distinct, Dictionary.mem_keys_iff, Dictionary.get?_ofPairs, Dictionary.isSome_lastValue?_iff,
    List.map_map]
  simp

theorem distinct_eq_nil_iff (keys : List String) : distinct keys = [] ↔ keys = [] := by
  rw [List.eq_nil_iff_forall_not_mem, List.eq_nil_iff_forall_not_mem]
  exact forall_congr' fun k => not_congr (mem_distinct_iff keys k)

section Keys

variable (values : Dictionary String) (ps : List Piece)

/-- No value is unused if all of them have a slot. -/
theorem unused_eq_nil_iff :
    (values.keys.filter fun k => !(slotKeys ps).contains k) = []
      ↔ ∀ k, (values.get? k).isSome = true → k ∈ slotKeys ps := by
  rw [List.filter_eq_nil_iff]
  refine forall_congr' fun k => ?_
  rw [Dictionary.mem_keys_iff]
  simp

/-- No slot is unresolved if all of them have a value. -/
theorem unresolved_eq_nil_iff :
    distinct ((slotKeys ps).filter fun k => !values.contains k) = []
      ↔ ∀ k ∈ slotKeys ps, (values.get? k).isSome = true := by
  rw [distinct_eq_nil_iff, List.filter_eq_nil_iff]
  refine forall_congr' fun k => ?_
  rw [Dictionary.contains]
  cases values.get? k <;> simp

end Keys

/-- A filling succeeds when the keys of the values are those of the slots. -/
theorem fill_eq_ok_iff (values : Dictionary String) (ps : List Piece) (filled : String) :
    fill values ps = .ok filled ↔
      (∀ k, (values.get? k).isSome = true ↔ k ∈ slotKeys ps)
        ∧ filled.toList = ps.flatMap (fillPiece values) := by
  -- the two lists of a fault are empty exactly if one set of keys is within the other
  have hunused := unused_eq_nil_iff values ps
  have hunresolved := unresolved_eq_nil_iff values ps
  have htext : (Except.ok (String.ofList (ps.flatMap (fillPiece values))) : Except Fault String)
      = .ok filled ↔ filled.toList = ps.flatMap (fillPiece values) := by
    rw [Except.ok.injEq, eq_comm]
    constructor
    · rintro rfl
      exact String.toList_ofList
    · intro h
      rw [← h, String.ofList_toList]
  rw [fill]
  -- unused values are reported first
  by_cases h1 : (values.keys.filter fun k => !(slotKeys ps).contains k) = []
  · rw [if_neg (not_not_intro h1)]
    by_cases h2 : distinct ((slotKeys ps).filter fun k => !values.contains k) = []
    · rw [if_neg (not_not_intro h2), htext]
      exact ⟨fun h => ⟨fun k => ⟨hunused.1 h1 k, hunresolved.1 h2 k⟩, h⟩, fun h => h.2⟩
    · rw [if_pos h2]
      refine ⟨fun h => (by cases h), fun h => absurd ?_ h2⟩
      exact hunresolved.2 fun k => (h.1 k).2
  · rw [if_pos h1]
    refine ⟨fun h => (by cases h), fun h => absurd ?_ h1⟩
    exact hunused.2 fun k => (h.1 k).1

/-! ## Filling a statement -/

/-- A statement whose slots are closed is filled piece by piece. -/
theorem substitute_of_slotsClosed {statement : String} (hclosed : SlotsClosed statement.toList)
    (arguments : List String) :
    substitute statement arguments
      = fill (Dictionary.ofPairs (pairUp arguments))
          ((tokens statement.toList).flatMap Token.pieces) := by
  have hnone : opensAt? 0 (tokens statement.toList) = none :=
    (opensAt?_eq_none_iff 0 _).2 ((slotsClosed_iff _).1 hclosed)
  rw [substitute, pieces, piecesFrom_plain_eq, piecesOf, hnone]

/-- Any other statement has a first slot that is open, which is its fault. -/
theorem substitute_of_not_slotsClosed {statement : String}
    (h : ¬ SlotsClosed statement.toList) :
    ∃ position, opensAt? 0 (tokens statement.toList) = some position
      ∧ ∀ arguments, substitute statement arguments = .error (.unclosed position) := by
  have hsome : opensAt? 0 (tokens statement.toList) ≠ none := by
    intro hnone
    exact h ((slotsClosed_iff _).2 ((opensAt?_eq_none_iff 0 _).1 hnone))
  obtain ⟨position, hposition⟩ := Option.ne_none_iff_exists'.1 hsome
  refine ⟨position, hposition, fun arguments => ?_⟩
  rw [substitute, pieces, piecesFrom_plain_eq, piecesOf, hposition]

/-- The values of a filling are those of the arguments, and its slots are those of the statement. -/
theorem get?_arguments_and_slotKeys (statement : String) (arguments : List String) :
    (Dictionary.ofPairs (pairUp arguments)).get? = suppliedValue? arguments
      ∧ slotKeys ((tokens statement.toList).flatMap Token.pieces)
        = placeholderKeys (tokens statement.toList) :=
  ⟨funext fun key => get?_ofPairs_pairUp arguments key, slotKeys_flatMap_pieces _⟩

/-- A statement is filled if its slots are closed and the supplied keys are those of its slots. -/
theorem substitute_filled_iff (statement : String) (arguments : List String) (filled : String) :
    substitute statement arguments = .ok filled ↔
      SlotsClosed statement.toList
      ∧ (∀ key, (suppliedValue? arguments key).isSome = true
        ↔ key ∈ placeholderKeys (tokens statement.toList))
      ∧ filled.toList
        = (tokens statement.toList).flatMap (Token.filled (suppliedValue? arguments)) := by
  by_cases hclosed : SlotsClosed statement.toList
  · obtain ⟨hvalues, hslots⟩ := get?_arguments_and_slotKeys statement arguments
    have htext : ((tokens statement.toList).flatMap Token.pieces).flatMap
          (fillPiece (Dictionary.ofPairs (pairUp arguments)))
        = (tokens statement.toList).flatMap (Token.filled (suppliedValue? arguments)) := by
      rw [List.flatMap_assoc, ← hvalues]
      exact congrArg (fun f => List.flatMap f _)
        (funext fun t => flatMap_fillPiece_pieces (Dictionary.ofPairs (pairUp arguments)) t)
    rw [substitute_of_slotsClosed hclosed, fill_eq_ok_iff, hslots, htext, hvalues]
    exact (and_iff_right hclosed).symm
  · obtain ⟨position, -, hfault⟩ := substitute_of_not_slotsClosed hclosed
    rw [hfault]
    exact iff_of_false (fun h => by cases h) fun h => hclosed h.1

/-- A statement whose tokens are known is filled token by token, if every slot is closed and has its
value. -/
theorem substitute_of_tokens {statement : String} {ts : List Token}
    (hts : tokens statement.toList = ts) (hclosed : opensAt? 0 ts = none)
    {arguments : List String} {filled : String}
    (hkeys : ∀ key, (suppliedValue? arguments key).isSome = true ↔ key ∈ placeholderKeys ts)
    (hfilled : filled.toList = ts.flatMap (Token.filled (suppliedValue? arguments))) :
    substitute statement arguments = .ok filled := by
  subst hts
  have hslots : SlotsClosed statement.toList :=
    (slotsClosed_iff _).2 ((opensAt?_eq_none_iff 0 _).1 hclosed)
  exact (substitute_filled_iff _ _ _).2 ⟨hslots, hkeys, hfilled⟩

/-- **What a filled template is.** Let every slot of a statement be closed. Filling it, from its
characters or from its bytes, succeeds exactly when the supplied keys are the keys of its slots, and
then gives the statement with each slot exchanged for the last value of its key and every other token
as it is. -/
theorem substitute_eq_ok_iff (statement : String) (arguments : List String)
    (hclosed : SlotsClosed statement.toList) :
    Octets.substitute? statement arguments = some (substitute statement arguments) ∧
    ∀ filled : String, substitute statement arguments = .ok filled ↔
      (∀ key, (suppliedValue? arguments key).isSome = true
        ↔ key ∈ placeholderKeys (tokens statement.toList))
      ∧ filled.toList
        = (tokens statement.toList).flatMap (Token.filled (suppliedValue? arguments)) := by
  refine ⟨Octets.substitute?_eq statement arguments, fun filled => ?_⟩
  rw [substitute_filled_iff]
  exact and_iff_right hclosed

/-- A statement with a slot in a quotation and a slot whose key looks like one, filled with a key given
twice, a value with an open quote and a key without a value. -/
theorem substitute_nested_marks :
    SlotsClosed "'$(x)'=$(t) $(a$(b)".toList ∧
    substitute "'$(x)'=$(t) $(a$(b)" ["t", "old", "a$(b", "it's $(q", "t", "v'", "lonely"]
      = .ok "'$(x)'=v' it's $(q" := by
  have htokens : tokens "'$(x)'=$(t) $(a$(b)".toList
      = [.quotation "'$(x)'".toList, .literal '=', .placeholder ['t'], .literal ' ',
        .placeholder ['a', '$', '(', 'b']] := by
    cbv
  have hclosed : SlotsClosed "'$(x)'=$(t) $(a$(b)".toList := by
    rw [slotsClosed_iff, htokens]
    decide
  refine ⟨hclosed, ((substitute_eq_ok_iff _ _ hclosed).2 _).2 ⟨fun key => ?_, ?_⟩⟩
  · have hkeys : placeholderKeys (tokens "'$(x)'=$(t) $(a$(b)".toList) = ["t", "a$(b"] := by
      rw [htokens]
      decide
    rw [hkeys]
    simp only [suppliedValue?, Option.isSome_or, List.mem_cons]
    by_cases ht : key = "t"
    · simp [ht]
    · simp [ht]
  · rw [htokens]
    decide

end MysqlDesk.Template
