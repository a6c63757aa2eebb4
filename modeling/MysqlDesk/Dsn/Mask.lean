/-
Showing a data source name without its password.

A name that can be read is written again with a mask for its password, even if it has none; if it has
no user there is nothing to tell the reader, and the mask stands alone.

A text that cannot be read may still hold a password. There the stretch between a colon and an
at-sign is masked, as long as it has no slash, the colon stands on the first line and the at-sign on
the last. Of the colons that allow this the last one counts, and for it the first at-sign. If no
colon does, or the stretch is the mask already, the mask stands alone.

The rule is stated by `fromAtSign?` and `maskStretch?`, which look ahead from every colon. What they
find is gathered in one pass from the end of the text by `survey`, and `survey_eq` says that it is the
same.
-/
import MysqlDesk.Dsn.Reader

set_option autoImplicit false

namespace MysqlDesk.Dsn

/-- What is shown in the place of a password. -/
def passwordMask : String := "********"

/-- The text from the at-sign on that ends a stretch which may be masked: the first one without a
slash before it and without a line end after it. -/
def fromAtSign? : List Char → Option (List Char)
  | [] => none
  | c :: rest =>
    if c = '/' then none
    else if c = '@' ∧ '\n' ∉ rest then some (c :: rest)
    else fromAtSign? rest

/-- The text with the stretch masked that the last possible colon begins. -/
def maskStretch? : List Char → Option (List Char)
  | [] => none
  | c :: rest =>
    if c = '\n' then none
    else match maskStretch? rest with
      | some masked => some (c :: masked)
      | none =>
        if c = ':' then (fromAtSign? rest).map fun tail => c :: (passwordMask.toList ++ tail)
        else none

/-- What masking needs to know of the text from some place on. -/
structure Survey where
  /-- No line ends in it. -/
  oneLine : Bool
  /-- Its part that begins with the at-sign which ends a stretch. -/
  fromAtSign : Option (List Char)
  /-- The text with its stretch masked. -/
  masked : Option (List Char)

/-- Gathers what masking needs to know, from the end of the text on. -/
def survey : List Char → Survey
  | [] => ⟨true, none, none⟩
  | c :: rest =>
    let known := survey rest
    { oneLine := c != '\n' && known.oneLine
      fromAtSign :=
        if c = '/' then none
        else if c = '@' ∧ known.oneLine = true then some (c :: rest)
        else known.fromAtSign
      masked :=
        if c = '\n' then none
        else match known.masked with
          | some masked => some (c :: masked)
          | none =>
            if c = ':' then known.fromAtSign.map fun tail => c :: (passwordMask.toList ++ tail)
            else none }

/-- A survey finds what looking ahead finds. -/
theorem survey_eq (s : List Char) :
    survey s = ⟨decide ('\n' ∉ s), fromAtSign? s, maskStretch? s⟩ := by
  induction s with
  | nil => simp [survey, fromAtSign?, maskStretch?]
  | cons c rest ih =>
    have hline : (c != '\n' && decide ('\n' ∉ rest)) = decide ('\n' ∉ c :: rest) := by
      by_cases hc : c = '\n'
      · simp [hc]
      · simp [hc, Ne.symm hc]
    simp only [survey, ih, fromAtSign?, maskStretch?, hline, decide_eq_true_eq]

/-- The form in which a text that is no data source name is shown. -/
def maskUnread (s : String) : String :=
  match (survey s.toList).masked with
  | none => passwordMask
  | some masked => if String.ofList masked = s then passwordMask else String.ofList masked

/-- The form in which a data source name, or what should be one, is shown. -/
def mask (s : String) : String :=
  match parse s with
  | .ok d => if d.user = "" then passwordMask else { d with password := passwordMask }.text
  | .error _ => maskUnread s

end MysqlDesk.Dsn
