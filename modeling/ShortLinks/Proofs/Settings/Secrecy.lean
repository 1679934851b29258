import ShortLinks.Proofs.Settings.Masking
import ShortLinks.Proofs.Settings.Selection

/-!
# What settings show of a password

Environments that differ in nothing but a password give settings that differ in nothing but an address. Their summaries
and their checks agree exactly where the masked addresses do.
-/

set_option autoImplicit false

namespace ShortLinks.Settings

/-- What is shown of the settings that an environment gives: their summary, and what their check says. -/
def shown (processors : Nat) (env : Environment) : Except SettingsError (List String × Except SettingsError Unit) :=
  (ofEnvironment? processors env).map fun settings => (settings.summary, settings.check)

def atAddress (settings : Settings) (database : DatabaseSettings) (url : String) : Settings :=
  { settings with storage := .database { database with url } }

variable {p q : String} {settings : Settings} {database : DatabaseSettings} {url url' : String} {scheme user rest : String}

theorem summary_atAddress_iff :
    (settings.atAddress database url).summary = (settings.atAddress database url').summary ↔ mask url = mask url' := by
  constructor
  · intro h
    have hline : "Storage: postgres (" ++ mask url ++ ")" = "Storage: postgres (" ++ mask url' ++ ")" :=
      (List.cons_eq_cons.mp h).1
    have hchars := congrArg String.toList hline
    rw [String.toList_append, String.toList_append, String.toList_append, String.toList_append] at hchars
    exact String.toList_injective (List.append_cancel_left (List.append_cancel_right hchars))
  · intro h
    simp only [summary, storageLines, atAddress, h]

theorem check_atAddress_congr (hmask : mask url = mask url')
    (hshort : url.startsWith "postgres://" = url'.startsWith "postgres://")
    (hlong : url.startsWith "postgresql://" = url'.startsWith "postgresql://") :
    (settings.atAddress database url).check = (settings.atAddress database url').check := by
  have hdatabase : checkDatabase { database with url } = checkDatabase { database with url := url' } := by
    simp only [checkDatabase, hmask, hshort, hlong]
  unfold check
  simp only [atAddress, hdatabase]
  rfl

theorem shown_atAddress_iff (hscheme : ¬ "://".toList <:+: scheme.toList) (huser : '@' ∉ user.toList) :
    ((settings.atAddress database (address scheme user p rest)).summary,
        (settings.atAddress database (address scheme user p rest)).check) =
      ((settings.atAddress database (address scheme user q rest)).summary,
        (settings.atAddress database (address scheme user q rest)).check) ↔ exposed p = exposed q := by
  have hmask : mask (address scheme user p rest) = mask (address scheme user q rest) ↔ exposed p = exposed q := by
    rw [mask_address hscheme huser, mask_address hscheme huser, String.ofList_inj, masked_exposed_inj]
  have hstarts {front : String} (word : String) (hfront : word ++ "://" = front)
      (hword : ¬ "://".toList <:+: word.toList) :
      (address scheme user p rest).startsWith front = (address scheme user q rest).startsWith front := by
    rw [← hfront]
    exact Bool.eq_iff_iff.mpr ((startsWith_address hword hscheme).trans (startsWith_address hword hscheme).symm)
  rw [Prod.mk.injEq, summary_atAddress_iff, hmask, and_iff_left_iff_imp]
  intro h
  have hshort : (address scheme user p rest).startsWith "postgres://" =
      (address scheme user q rest).startsWith "postgres://" := hstarts "postgres" rfl (scheme_of_no_colon (by decide))
  have hlong : (address scheme user p rest).startsWith "postgresql://" =
      (address scheme user q rest).startsWith "postgresql://" := hstarts "postgresql" rfl (scheme_of_no_colon (by decide))
  exact check_atAddress_congr (hmask.mpr h) hshort hlong

/-- Where an environment holds the password: in a variable of its own, or in an address. -/
inductive Carrier where
  | component
  | address (scheme user rest : String)

namespace Carrier

def name : Carrier → String
  | component => "DB_PASSWORD"
  | address .. => "DATABASE_URL"

theorem ne_name {name : String} (carrier : Carrier) (hpassword : name ≠ "DB_PASSWORD") (haddress : name ≠ "DATABASE_URL") :
    name ≠ carrier.name := by
  cases carrier with
  | component => exact hpassword
  | address => exact haddress

def text (password : String) : Carrier → String
  | component => password
  | address scheme user rest => Settings.address scheme user password rest

def set (carrier : Carrier) (env : Environment) (password : String) : Environment :=
  env.set carrier.name (Bytes.ofText (carrier.text password))

/-- Scheme and user end where the address says they do. -/
def Delimited (env : Environment) : Carrier → Prop
  | component => ∀ user, env.text "DB_USER" = .ok user → '@' ∉ user.toList
  | address scheme user _ => ¬ "://".toList <:+: scheme.toList ∧ '@' ∉ user.toList

end Carrier

/-- What a password can change of a storage: nothing, or the address of the database where the password stands. -/
inductive Varies (result : String → Except SettingsError Storage) : Prop
  | constant {storage : Except SettingsError Storage} (h : ∀ password, result password = storage)
  | address (database : DatabaseSettings) {scheme user rest : String} (hscheme : ¬ "://".toList <:+: scheme.toList)
    (huser : '@' ∉ user.toList) (h : ∀ password,
      result password = .ok (.database { database with url := address scheme user password rest }))

open Environment

variable {env : Environment} {carrier : Carrier} {processors : Nat} {name password : String}

theorem text_set_self : (carrier.set env password).text carrier.name = .ok (carrier.text password) :=
  text_eq_ok_iff.mpr lookup_set_self

theorem text_set_of_ne (h : name ≠ carrier.name) : (carrier.set env password).text name = env.text name :=
  text_congr (lookup_set_of_ne h)

theorem text?_set_of_ne (h : name ≠ carrier.name) : (carrier.set env password).text? name = env.text? name :=
  congrArg Except.toOption (text_set_of_ne h)

theorem nonEmpty?_set_of_ne (h : name ≠ carrier.name) :
    (carrier.set env password).nonEmpty? name = env.nonEmpty? name :=
  congrArg (Option.filter _) (text?_set_of_ne h)

theorem text?_other (hpassword : name ≠ "DB_PASSWORD") (haddress : name ≠ "DATABASE_URL") :
    (carrier.set env password).text? name = env.text? name :=
  text?_set_of_ne (carrier.ne_name hpassword haddress)

theorem withStorage_set : withStorage processors (carrier.set env password) = withStorage processors env := by
  funext storage
  simp [withStorage, number, text?_other]

theorem databaseSettings_set : databaseSettings (carrier.set env password) url = databaseSettings env url := by
  simp [databaseSettings, number, text?_other]

theorem address_of_parts (user password host port name : String) :
    s!"postgres://{user}:{password}@{host}:{port}/{name}" = address "postgres" user password s!"{host}:{port}/{name}" := by
  refine String.toList_injective ?_
  rw [toList_address]
  change ("postgres://" ++ user ++ ":" ++ password ++ "@" ++ host ++ ":" ++ port ++ "/" ++ name).toList =
    _ ++ (_ ++ (_ ++ ':' :: (_ ++ '@' :: (host ++ ":" ++ port ++ "/" ++ name).toList)))
  simp

theorem nonEmpty?_address : ((Carrier.address scheme user rest).set env password).nonEmpty? "DATABASE_URL" =
    some (address scheme user password rest) := by
  refine nonEmpty?_eq_some_iff.mpr ⟨lookup_set_self, fun hnil => ?_⟩
  have hlength := congrArg (List.length ∘ String.toList) hnil
  simp [toList_address] at hlength

theorem storage?_address (h : (Carrier.address scheme user rest).Delimited env)
    (hpath : ∀ password, ((Carrier.address scheme user rest).set env password).nonEmpty? "FILE_STORAGE_PATH" = none) :
    Varies fun password => storage? ((Carrier.address scheme user rest).set env password) := by
  have hstorage (password : String) : storage? ((Carrier.address scheme user rest).set env password) =
      .ok (.database (databaseSettings env (address scheme user password rest))) := by
    rw [storage?_of_address (hpath password) nonEmpty?_address, databaseSettings_set]
  exact .address (databaseSettings env "") h.1 h.2 hstorage

theorem storage?_component (h : Carrier.component.Delimited env)
    (hpath : ∀ password, (Carrier.component.set env password).nonEmpty? "FILE_STORAGE_PATH" = none) :
    Varies fun password => storage? (Carrier.component.set env password) := by
  have hsame {name : String} (hname : name ≠ "DB_PASSWORD") (password : String) :
      (Carrier.component.set env password).text name = env.text name := text_set_of_ne hname
  have hpassword (password : String) : (Carrier.component.set env password).text "DB_PASSWORD" = .ok password :=
    text_set_self
  rcases haddress : env.nonEmpty? "DATABASE_URL" with _ | url
  case some =>
    have hstorage (password : String) :
        storage? (Carrier.component.set env password) = .ok (.database (databaseSettings env url)) := by
      rw [storage?_of_address (hpath password) ((nonEmpty?_set_of_ne (by decide)).trans haddress), databaseSettings_set]
    exact .constant hstorage
  have hurl (password : String) : (Carrier.component.set env password).nonEmpty? "DATABASE_URL" = none :=
    (nonEmpty?_set_of_ne (by decide)).trans haddress
  rcases hhost : env.text? "DB_HOST" with _ | host
  case none =>
    exact .constant fun password =>
      storage?_of_nothing (hpath password) (hurl password) ((text?_set_of_ne (by decide)).trans hhost)
  have hmachine (password : String) : (Carrier.component.set env password).text? "DB_HOST" = some host :=
    (text?_set_of_ne (by decide)).trans hhost
  rcases huser : env.text "DB_USER" with cause | user
  case error =>
    exact .constant fun password => storage?_of_no_user (hpath password) (hurl password) (hmachine password)
      ((hsame (by decide) password).trans huser)
  rcases hname : env.text "DB_NAME" with cause | name
  case error =>
    exact .constant fun password => storage?_of_no_name (hpath password) (hurl password) (hmachine password)
      ((hsame (by decide) password).trans huser) (hpassword password) ((hsame (by decide) password).trans hname)
  let port := (env.text? "DB_PORT").getD "5432"
  have hport (password : String) : ((Carrier.component.set env password).text? "DB_PORT").getD "5432" = port :=
    congrArg (fun text => Option.getD text "5432") (text?_set_of_ne (by decide))
  have hstorage (password : String) : storage? (Carrier.component.set env password) =
      .ok (.database (databaseSettings env (address "postgres" user password s!"{host}:{port}/{name}"))) := by
    rw [storage?_of_parts (hpath password) (hurl password) (hmachine password) (hport password)
      ((hsame (by decide) password).trans huser) (hpassword password) ((hsame (by decide) password).trans hname),
      databaseSettings_set, address_of_parts]
  exact .address (databaseSettings env "") (scheme_of_no_colon (by decide)) (h user huser) hstorage

/-- Of what the environments of a carrier select, the password can change the address only. -/
theorem storage?_varies (h : carrier.Delimited env) : Varies fun password => storage? (carrier.set env password) := by
  have hfile (password : String) :
      (carrier.set env password).nonEmpty? "FILE_STORAGE_PATH" = env.nonEmpty? "FILE_STORAGE_PATH" :=
    nonEmpty?_set_of_ne (carrier.ne_name (by decide) (by decide))
  rcases hpath : env.nonEmpty? "FILE_STORAGE_PATH" with _ | path
  case some => exact .constant fun password => storage?_of_path ((hfile password).trans hpath)
  cases carrier with
  | component => exact storage?_component h fun password => (hfile password).trans hpath
  | address => exact storage?_address h fun password => (hfile password).trans hpath

/-- Two passwords show the same exactly if they give the same settings or the same of them is exposed, and nothing is
exposed exactly of a password that has neither a colon nor an at sign. -/
theorem passwords_exposed (h : carrier.Delimited env) (processors : Nat) :
    (∀ p q, shown processors (carrier.set env p) = shown processors (carrier.set env q) ↔
      ofEnvironment? processors (carrier.set env p) = ofEnvironment? processors (carrier.set env q) ∨
        exposed p = exposed q) ∧
    ∀ password, exposed password = (none, none) ↔ ':' ∉ password.toList ∧ '@' ∉ password.toList := by
  refine ⟨fun p q => ?_, fun password => exposed_eq_none_iff⟩
  cases storage?_varies h with
  | constant hstorage =>
    have hsettings : ofEnvironment? processors (carrier.set env p) = ofEnvironment? processors (carrier.set env q) := by
      rw [ofEnvironment?_eq, ofEnvironment?_eq, withStorage_set, withStorage_set, hstorage, hstorage]
    simp [shown, hsettings]
  | @address database scheme user rest hscheme huser hstorage =>
    have hsettings (password : String) : ofEnvironment? processors (carrier.set env password) =
        .ok ((withStorage processors env .memory).atAddress database (address scheme user password rest)) := by
      rw [ofEnvironment?_eq, withStorage_set, hstorage]
      rfl
    rw [shown, shown, hsettings p, hsettings q]
    constructor
    · intro hshown
      exact .inr ((shown_atAddress_iff hscheme huser).mp (Except.ok.inj hshown))
    · rintro (hsame | hexposed)
      · exact congrArg (Except.map _) hsame
      · exact congrArg Except.ok ((shown_atAddress_iff hscheme huser).mpr hexposed)

def localParts : Environment :=
  [("DB_HOST", Bytes.ofText "db"), ("DB_USER", Bytes.ofText "app"), ("DB_NAME", Bytes.ofText "links")]

theorem localParts_delimited : Carrier.component.Delimited localParts := by
  intro user huser
  obtain rfl : "app" = user := Except.ok.inj huser
  decide

theorem localParts_passwords_exposed : Carrier.component.Delimited localParts ∧
    shown 1 (Carrier.component.set localParts "secret") = shown 1 (Carrier.component.set localParts "other") := by
  obtain ⟨hshown, hexposed⟩ := passwords_exposed localParts_delimited 1
  have hsecret : exposed "secret" = (none, none) := (hexposed _).mpr (by decide)
  have hother : exposed "other" = (none, none) := (hexposed _).mpr (by decide)
  exact ⟨localParts_delimited, (hshown _ _).mpr (.inr (hsecret.trans hother.symm))⟩

theorem localParts_storage? (password : String) : storage? (Carrier.component.set localParts password) =
    .ok (.database (databaseSettings localParts (address "postgres" "app" password "db:5432/links"))) := by
  have hhost : (Carrier.component.set localParts password).text? "DB_HOST" = some "db" := rfl
  have huser : (Carrier.component.set localParts password).text "DB_USER" = .ok "app" := rfl
  have hpassword : (Carrier.component.set localParts password).text "DB_PASSWORD" = .ok password := text_set_self
  have hname : (Carrier.component.set localParts password).text "DB_NAME" = .ok "links" := rfl
  rw [storage?_of_parts rfl rfl hhost rfl huser hpassword hname, databaseSettings_set, address_of_parts]
  rfl

theorem localParts_shown (password : String) :
    (shown 1 (Carrier.component.set localParts password)).map (fun lines => lines.1.head?) =
      .ok (some ("Storage: postgres (" ++ mask (address "postgres" "app" password "db:5432/links") ++ ")")) := by
  rw [shown, ofEnvironment?_eq, localParts_storage?]
  rfl

/-- A password with a colon is shown up to that colon, and is told from others by what is shown. -/
theorem localParts_show_password :
    (shown 1 (Carrier.component.set localParts "se:cret")).map (fun lines => lines.1.head?) =
      .ok (some "Storage: postgres (postgres://app:se:***@db:5432/links)") ∧
    (shown 1 (Carrier.component.set localParts "other")).map (fun lines => lines.1.head?) =
      .ok (some "Storage: postgres (postgres://app:***@db:5432/links)") ∧
    shown 1 (Carrier.component.set localParts "se:cret") ≠ shown 1 (Carrier.component.set localParts "other") := by
  have hcolon : mask (address "postgres" "app" "se:cret" "db:5432/links") = "postgres://app:se:***@db:5432/links" := by
    decide
  have hother : mask (address "postgres" "app" "other" "db:5432/links") = "postgres://app:***@db:5432/links" := by
    decide
  rw [localParts_shown, localParts_shown, hcolon, hother]
  refine ⟨rfl, rfl, fun hsame => ?_⟩
  have hlines := congrArg (Except.map fun lines => lines.1.head?) hsame
  rw [localParts_shown, localParts_shown, hcolon, hother] at hlines
  exact absurd (Option.some.inj (Except.ok.inj hlines)) (by decide)

end ShortLinks.Settings
