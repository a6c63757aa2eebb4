/-
Filling a template from a hash table.

A `Dictionary` has its entries in the order of their keys: what is listed from it is in order by itself, and is
the same for the same values. A hash table has neither. It gives its entries in an order of which nothing is
known, which is another one in the next run and may change with every pair that is put in. The order is left
open here, as a parameter (`Disorder`).

The filling is the one pass of `Template.Tally` over the pieces that the loop of `Template.Cursor` finds. It
looks values up in the table, compares the number of its entries with the number of keys that were used, and
sorts the keys that are left over, for they come in the order of the table.
-/
import MysqlDesk.Template.Cursor

set_option autoImplicit false

namespace MysqlDesk.Template

/-- The order of the entries of a hash table, after so many pairs were put in. It is any order. -/
structure Disorder where
  arrange : Nat → List (String × String) → List (String × String)
  perm : ∀ step entries, (arrange step entries).Perm entries

/-- A hash table: one entry for each of its keys, in the order in which it gives them. -/
structure HashTable where
  entries : List (String × String)
  nodup : (entries.map Prod.fst).Nodup

namespace HashTable

/-- The table without entries. -/
def empty : HashTable :=
  ⟨[], List.nodup_nil⟩

/-- The value of the key `k`. -/
def get? (t : HashTable) (k : String) : Option String :=
  Entries.find? k t.entries

/-- The keys, in the order of the table. -/
def keys (t : HashTable) : List String :=
  t.entries.map Prod.fst

/-- The entries with the pair `p` in place of the entry of its key. -/
def replace (es : List (String × String)) (p : String × String) : List (String × String) :=
  p :: es.filter fun e => e.1 ≠ p.1

theorem nodup_replace {es : List (String × String)} (h : (es.map Prod.fst).Nodup)
    (p : String × String) : ((replace es p).map Prod.fst).Nodup := by
  rw [replace, List.map_cons, List.nodup_cons]
  refine ⟨fun hmem => ?_, h.sublist (List.filter_sublist.map Prod.fst)⟩
  obtain ⟨e, he, hkey⟩ := List.mem_map.1 hmem
  exact of_decide_eq_true (List.mem_filter.1 he).2 hkey

/-- The table after the pair `p` was put in, as the pair with the number `step`. -/
def put (d : Disorder) (step : Nat) (t : HashTable) (p : String × String) : HashTable where
  entries := d.arrange step (replace t.entries p)
  nodup := (((d.perm step _).map Prod.fst).nodup_iff).2 (nodup_replace t.nodup p)

/-- The table after all the pairs were put in, from first to last, beginning with the number `step`. -/
def putAll (d : Disorder) : Nat → HashTable → List (String × String) → HashTable
  | _, t, [] => t
  | step, t, p :: rest => putAll d (step + 1) (t.put d step p) rest

/-- The table of a list of pairs. -/
def ofPairs (d : Disorder) (pairs : List (String × String)) : HashTable :=
  putAll d 0 empty pairs

end HashTable

/-- The keys in ascending order. -/
def sorted (keys : List String) : List String :=
  keys.mergeSort fun a b => decide (a ≤ b)

/-- Takes the next piece, with values that are looked up by `value?`: the step of `Tally.add`, which has
them from a dictionary. -/
def Tally.take (value? : String → Option String) (t : Tally) : Piece → Tally
  | .verbatim c => { t with text := t.text ++ [c] }
  | .slot key =>
    match value? key with
    | some value => { t with text := t.text ++ value.toList, used := t.used.insert key () }
    | none => { t with missing := t.missing.insert key () }

/-- The filled pieces, with the values of a hash table. -/
def HashTable.fill (values : HashTable) (ps : List Piece) : Except Fault String :=
  let t := ps.foldl (Tally.take values.get?) Tally.start
  if values.entries.length ≠ t.used.keys.length then
    .error (.unused (sorted (values.keys.filter fun key => !t.used.contains key)))
  else if t.missing.keys ≠ [] then .error (.unresolved t.missing.keys)
  else .ok (String.ofList t.text)

/-- Fills the slots of `statement` with the values of the flat list `arguments`, which are put into a hash
table, unless some slice cannot be taken. -/
def HashTable.substitute? (d : Disorder) (statement : String) (arguments : List String) :
    Option (Except Fault String) :=
  let bytes := Text.Utf8.encode statement.toList
  ((Cursor.scan bytes Cursor.start).pieces? bytes).map fun
    | .error slot => .error (.unclosed slot.position)
    | .ok ps => (HashTable.ofPairs d (pairUp arguments)).fill ps

end MysqlDesk.Template
