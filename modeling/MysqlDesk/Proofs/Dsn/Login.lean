/-
What the login of a readable name decides.

The login of a text is what stands before its last at-sign, or rather the last one before its last
slash. Behind that at-sign the text is read as if there were no login (`parse_login`): the login gives
user and password, and it can neither move a separator nor make the text unreadable. So a password may
hold any character, and the masked form of a readable name, in which the mask takes the place of the
password, is the same for every password.
-/
import MysqlDesk.Proofs.Dsn.Masking

set_option autoImplicit false

namespace MysqlDesk.Dsn

open MysqlDesk.Text

/-- The text with this user, without a password, before the rest. -/
def withUser (user rest : String) : String :=
  user ++ "@" ++ rest

/-! ## Reading behind a login -/

/-- What was left out is put in without a look at the login. -/
theorem normalize_with_login (d : Dsn) (user password : String) :
    normalize { d with user, password }
      = (normalize d).map fun e => { e with user, password } := by
  simp only [normalize]
  by_cases haddress : d.address = ""
  · rw [if_pos haddress, if_pos haddress]
    cases defaultAddress (if d.net = "" then "tcp" else d.net) <;> rfl
  · rw [if_neg haddress, if_neg haddress]
    by_cases hport : (if d.net = "" then "tcp" else d.net) = "tcp"
        ∧ hasPort d.address.toList = false
    · rw [if_pos hport, if_pos hport]
      rfl
    · rw [if_neg hport, if_neg hport]
      rfl

/-- **Reading behind a login.** The login decides user and password, and nothing else. -/
theorem parse_login {s t : String} {login place target : List Char}
    (hs : s.toList = login ++ '@' :: (place ++ '/' :: target))
    (ht : t.toList = place ++ '/' :: target) (hplace : '@' ∉ place) (htarget : '/' ∉ target) :
    parse s = (parse t).map fun d => { d with
      user := String.ofList (beforeFirst ':' login)
      password := String.ofList (afterFirst ':' login) } := by
  have hserver : s.toList = (login ++ '@' :: place) ++ '/' :: target := by
    rw [hs, List.append_assoc, List.cons_append]
  obtain ⟨hlogin, hafter⟩ := sides_append_last hplace login
  have halone := (sides_of_not_mem_last hplace).2
  rw [parse_of_slash hserver htarget, parse_of_slash ht htarget, hafter, halone]
  cases readPlace place with
  | error f => rfl
  | ok net =>
    cases readParams (afterFirst '?' target) with
    | error f => rfl
    | ok params =>
      -- the fields are those of the text without a login, user and password apart
      have hfields : writtenFields (login ++ '@' :: place) target net params
          = { writtenFields place target net params with
              user := String.ofList (beforeFirst ':' login)
              password := String.ofList (afterFirst ':' login) } := by
        rw [writtenFields, hlogin]
        rfl
      show normalize (writtenFields _ _ _ _) = (normalize (writtenFields _ _ _ _)).map _
      rw [hfields, normalize_with_login]

section

variable {user place target : String}

theorem toList_rest (place target : String) :
    (place ++ "/" ++ target).toList = place.toList ++ '/' :: target.toList := by
  rw [String.toList_append, String.toList_append, List.append_assoc]
  rfl

theorem parse_withUser (huser : ':' ∉ user.toList) (hplace : '@' ∉ place.toList)
    (htarget : '/' ∉ target.toList) :
    parse (withUser user (place ++ "/" ++ target))
      = (parse (place ++ "/" ++ target)).map fun d => { d with user, password := "" } := by
  have htext : (withUser user (place ++ "/" ++ target)).toList
      = user.toList ++ '@' :: (place.toList ++ '/' :: target.toList) := by
    rw [withUser, String.toList_append, String.toList_append, toList_rest, List.append_assoc]
    rfl
  obtain ⟨hbefore, hafter⟩ := sides_of_not_mem huser
  rw [parse_login htext (toList_rest place target) hplace htarget, hbefore, hafter,
    String.ofList_toList]

theorem parse_withLogin (huser : ':' ∉ user.toList) (hplace : '@' ∉ place.toList)
    (htarget : '/' ∉ target.toList) (password : String) :
    parse (withLogin user password (place ++ "/" ++ target))
      = (parse (place ++ "/" ++ target)).map fun d => { d with user, password } := by
  have htext : (withLogin user password (place ++ "/" ++ target)).toList
      = (user.toList ++ ':' :: password.toList)
          ++ '@' :: (place.toList ++ '/' :: target.toList) := by
    rw [toList_withLogin, toList_rest, List.append_assoc, List.cons_append]
  obtain ⟨hbefore, hafter⟩ := sides_append huser password.toList
  rw [parse_login htext (toList_rest place target) hplace htarget, hbefore, hafter,
    String.ofList_toList, String.ofList_toList]

/-! ## Masking -/

theorem mask_of_parse {s : String} {d : Dsn} (h : parse s = .ok d) (huser : d.user ≠ "") :
    mask s = ({ d with password := passwordMask } : Dsn).text := by
  rw [mask, h]
  exact if_neg huser

/-- **Masking a readable name does not look at its password.** Let a text with a user and no password be
read as the name `d`. Then it is read with any password, as `d` with that password; and with every
password, or none, it is shown as `d` with the mask in the place of the password. -/
theorem mask_eq_text_of_parse (hne : user ≠ "") (huser : ':' ∉ user.toList)
    (hplace : '@' ∉ place.toList) (htarget : '/' ∉ target.toList) {d : Dsn}
    (h : parse (withUser user (place ++ "/" ++ target)) = .ok d) (password : String) :
    parse (withLogin user password (place ++ "/" ++ target)) = .ok { d with password }
      ∧ mask (withLogin user password (place ++ "/" ++ target))
        = mask (withUser user (place ++ "/" ++ target))
      ∧ mask (withUser user (place ++ "/" ++ target))
        = ({ d with password := passwordMask } : Dsn).text := by
  have hread := parse_withUser huser hplace htarget
  have hlogin := parse_withLogin huser hplace htarget password
  rw [h] at hread
  -- both texts are read as what stands behind the login is, which can be read since one of them is
  cases hrest : parse (place ++ "/" ++ target) with
  | error f =>
    rw [hrest] at hread
    cases hread
  | ok e =>
    rw [hrest] at hread hlogin
    have hd : d = { e with user, password := "" } := Except.ok.inj hread
    have hlogin' : parse (withLogin user password (place ++ "/" ++ target))
        = .ok { d with password } := by
      rw [hlogin, hd]
      rfl
    have hnamed : d.user ≠ "" := by
      rw [hd]
      exact hne
    refine ⟨hlogin', ?_, mask_of_parse h hnamed⟩
    rw [mask_of_parse hlogin' hnamed, mask_of_parse h hnamed]

/-- A password of separators alone, before an address that has slashes of its own. -/
theorem mask_eq_text_of_parse_separators :
    ("app" ≠ "" ∧ ':' ∉ "app".toList ∧ '@' ∉ "unix(/run/db.sock)".toList
      ∧ '/' ∉ "shop?a=1".toList
      ∧ parse (withUser "app" ("unix(/run/db.sock)" ++ "/" ++ "shop?a=1"))
        = .ok ⟨"app", "", "unix", "/run/db.sock", "shop", Dictionary.ofPairs [("a", "1")]⟩)
    ∧ parse (withLogin "app" "@:/?(\n" ("unix(/run/db.sock)" ++ "/" ++ "shop?a=1"))
      = .ok ⟨"app", "@:/?(\n", "unix", "/run/db.sock", "shop", Dictionary.ofPairs [("a", "1")]⟩
    ∧ mask (withLogin "app" "@:/?(\n" ("unix(/run/db.sock)" ++ "/" ++ "shop?a=1"))
      = "app:********@unix(/run/db.sock)/shop?a=1" := by
  have hread : parse (withUser "app" ("unix(/run/db.sock)" ++ "/" ++ "shop?a=1"))
      = .ok ⟨"app", "", "unix", "/run/db.sock", "shop", Dictionary.ofPairs [("a", "1")]⟩ := rfl
  have hmarks : "app" ≠ "" ∧ ':' ∉ "app".toList ∧ '@' ∉ "unix(/run/db.sock)".toList
      ∧ '/' ∉ "shop?a=1".toList := by decide
  obtain ⟨hne, huser, hplace, htarget⟩ := hmarks
  obtain ⟨hlogin, hsame, hshown⟩ :=
    mask_eq_text_of_parse hne huser hplace htarget hread "@:/?(\n"
  exact ⟨⟨hne, huser, hplace, htarget, hread⟩, hlogin, hsame.trans hshown⟩

end

end MysqlDesk.Dsn
