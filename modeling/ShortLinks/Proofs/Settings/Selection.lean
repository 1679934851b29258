import ShortLinks.Settings
import ShortLinks.Proofs.Settings.Environment

/-!
# Which storage is selected

The first of three variables that is set is to decide where entries are kept: the path of a file, the address of a
database, the host of a database. A value that is text decides as it should. A value that is no text is passed over as
if its variable were not set, and the next one decides, or entries are kept in memory.
-/

set_option autoImplicit false

namespace ShortLinks

namespace Environment

def Fills (env : Environment) (name : String) (value : Bytes) : Prop := env.lookup name = some value ∧ value ≠ []

def Vacant (env : Environment) (name : String) : Prop := env.lookup name = none ∨ env.lookup name = some []

/-- The variable that is to decide, and its value. -/
inductive Decides (env : Environment) : String → Bytes → Prop
  | path {value : Bytes} (hfills : env.Fills "FILE_STORAGE_PATH" value) : Decides env "FILE_STORAGE_PATH" value
  | address {value : Bytes} (hpath : env.Vacant "FILE_STORAGE_PATH") (hfills : env.Fills "DATABASE_URL" value) :
    Decides env "DATABASE_URL" value
  | host {value : Bytes} (hpath : env.Vacant "FILE_STORAGE_PATH") (haddress : env.Vacant "DATABASE_URL")
    (hset : env.lookup "DB_HOST" = some value) : Decides env "DB_HOST" value

variable {env : Environment} {name text : String} {value : Bytes}

theorem vacant_or_fills (env : Environment) (name : String) : env.Vacant name ∨ ∃ value, env.Fills name value := by
  rcases hlookup : env.lookup name with _ | value
  · exact .inl (.inl hlookup)
  · by_cases hvalue : value = []
    · exact .inl (.inr (hvalue ▸ hlookup))
    · exact .inr ⟨value, hlookup, hvalue⟩

theorem Vacant.not_fills (h : env.Vacant name) : ¬ env.Fills name value := by
  rintro ⟨hlookup, hvalue⟩
  rcases h with h | h
  · exact nomatch h.symm.trans hlookup
  · exact hvalue (Option.some.inj (h.symm.trans hlookup)).symm

theorem Vacant.nonEmpty? (h : env.Vacant name) : env.nonEmpty? name = none := by
  rw [Option.eq_none_iff_forall_ne_some]
  intro text htext
  obtain ⟨hlookup, hne⟩ := nonEmpty?_eq_some_iff.mp htext
  exact h.not_fills ⟨hlookup, fun hnil => hne (Bytes.ofText_eq_nil_iff.mp hnil)⟩

theorem Fills.nonEmpty? (h : env.Fills name (Bytes.ofText text)) : env.nonEmpty? name = some text :=
  nonEmpty?_eq_some_iff.mpr ⟨h.1, fun htext => h.2 (Bytes.ofText_eq_nil_iff.mpr htext)⟩

end Environment

namespace Settings

open Environment

variable {env env' : Environment} {processors : Nat} {name path url host : String} {value : Bytes}
  {result : Except SettingsError Storage}

def selected (processors : Nat) (env : Environment) : Except SettingsError Storage :=
  (ofEnvironment? processors env).map Settings.storage

def withStorage (processors : Nat) (env : Environment) (storage : Storage) : Settings where
  storage
  shortIdLength := number env Text.Unsigned.parse64? "SHORT_ID_LENGTH" 8
  ownerIdLength := number env Text.Unsigned.parse64? "OWNER_ID_LENGTH" 16
  deleteWorkers := number env Text.Unsigned.parse64? "DELETE_WORKERS" processors
  deleteQueueCapacity := number env Text.Unsigned.parse64? "DELETE_QUEUE_CAPACITY" 10000
  logLevel := (env.text? "RUST_LOG").getD "info"
  logFormat := (env.text? "LOG_FORMAT").getD "text"

/-- What comes of a host: an address put together from the variables that go with it, or, if one that has to be there is
not or is no text, a failure that names it. -/
inductive Assembled (env : Environment) (host : Bytes) : Except SettingsError Storage → Prop
  | address {machine port user password name : String} (hmachine : Bytes.ofText machine = host)
    (hport : (env.text? "DB_PORT").getD "5432" = port) (huser : env.text "DB_USER" = .ok user)
    (hpassword : env.text "DB_PASSWORD" = .ok password) (hname : env.text "DB_NAME" = .ok name) :
    Assembled env host
      (.ok (.database (databaseSettings env s!"postgres://{user}:{password}@{machine}:{port}/{name}")))
  | incomplete {name : String} {cause : Unset}
    (hfirst : ["DB_USER", "DB_PASSWORD", "DB_NAME"].find? (fun name => (env.text? name).isNone) = some name)
    (hcause : env.text name = .error cause) : Assembled env host (.error (.incomplete name cause))

/-- A variable that is set is not passed over: either what it names is selected, with exactly its value, or the settings
fail. -/
structure HeedsSet (env : Environment) (result : Except SettingsError Storage) : Prop where
  path : ∀ value, env.Fills "FILE_STORAGE_PATH" value →
    (∃ path, Bytes.ofText path = value ∧ result = .ok (.file path)) ∨ ∃ failure, result = .error failure
  address : env.Vacant "FILE_STORAGE_PATH" → ∀ value, env.Fills "DATABASE_URL" value →
    (∃ url, Bytes.ofText url = value ∧ result = .ok (.database (databaseSettings env url))) ∨
      ∃ failure, result = .error failure
  host : env.Vacant "FILE_STORAGE_PATH" → env.Vacant "DATABASE_URL" → ∀ value, env.lookup "DB_HOST" = some value →
    Assembled env value result

/-- The variables are heeded: in addition, entries are kept in memory only if no variable says anything else. -/
structure Heeds (env : Environment) (result : Except SettingsError Storage) : Prop extends HeedsSet env result where
  memory : result = .ok .memory →
    env.Vacant "FILE_STORAGE_PATH" ∧ env.Vacant "DATABASE_URL" ∧ env.lookup "DB_HOST" = none

/-- Without a failure: a path or an address that is text is selected as it is, and memory where no variable is set. -/
structure Follows (env : Environment) (result : Except SettingsError Storage) : Prop where
  path : ∀ path, env.Fills "FILE_STORAGE_PATH" (Bytes.ofText path) → result = .ok (.file path)
  address : env.Vacant "FILE_STORAGE_PATH" → ∀ url, env.Fills "DATABASE_URL" (Bytes.ofText url) →
    result = .ok (.database (databaseSettings env url))
  memory : env.Vacant "FILE_STORAGE_PATH" → env.Vacant "DATABASE_URL" → env.lookup "DB_HOST" = none →
    result = .ok .memory

theorem ofEnvironment?_eq : ofEnvironment? processors env = (storage? env).map (withStorage processors env) := by
  unfold ofEnvironment?
  cases storage? env <;> rfl

theorem selected_eq (processors : Nat) (env : Environment) : selected processors env = storage? env := by
  rw [selected, ofEnvironment?_eq]
  cases storage? env <;> rfl

theorem component_of_ok {text : String} (h : env.text name = .ok text) : component env name = .ok text := by
  rw [component, h]
  rfl

theorem component_of_error {cause : Unset} (h : env.text name = .error cause) :
    component env name = .error (.incomplete name cause) := by
  rw [component, h]
  rfl

theorem storage?_of_path (h : env.nonEmpty? "FILE_STORAGE_PATH" = some path) : storage? env = .ok (.file path) := by
  rw [storage?, h]

theorem storage?_of_address (hpath : env.nonEmpty? "FILE_STORAGE_PATH" = none)
    (h : env.nonEmpty? "DATABASE_URL" = some url) : storage? env = .ok (.database (databaseSettings env url)) := by
  rw [storage?, hpath]
  simp only [databaseUrl?, h]
  rfl

theorem storage?_of_nothing (hpath : env.nonEmpty? "FILE_STORAGE_PATH" = none)
    (haddress : env.nonEmpty? "DATABASE_URL" = none) (hhost : env.text? "DB_HOST" = none) :
    storage? env = .ok .memory := by
  rw [storage?, hpath]
  simp only [databaseUrl?, haddress, hhost]
  rfl

section Host

variable {port user password : String} {cause : Unset} (hpath : env.nonEmpty? "FILE_STORAGE_PATH" = none)
  (haddress : env.nonEmpty? "DATABASE_URL" = none) (hhost : env.text? "DB_HOST" = some host)
include hpath haddress hhost

theorem storage?_of_no_user (huser : env.text "DB_USER" = .error cause) :
    storage? env = .error (.incomplete "DB_USER" cause) := by
  rw [storage?, hpath]
  simp only [databaseUrl?, haddress, hhost, component_of_error huser]
  rfl

theorem storage?_of_no_password (huser : env.text "DB_USER" = .ok user)
    (hpassword : env.text "DB_PASSWORD" = .error cause) : storage? env = .error (.incomplete "DB_PASSWORD" cause) := by
  rw [storage?, hpath]
  simp only [databaseUrl?, haddress, hhost, component_of_ok huser, component_of_error hpassword]
  rfl

theorem storage?_of_no_name (huser : env.text "DB_USER" = .ok user) (hpassword : env.text "DB_PASSWORD" = .ok password)
    (hname : env.text "DB_NAME" = .error cause) : storage? env = .error (.incomplete "DB_NAME" cause) := by
  rw [storage?, hpath]
  simp only [databaseUrl?, haddress, hhost, component_of_ok huser, component_of_ok hpassword, component_of_error hname]
  rfl

theorem storage?_of_parts (hport : (env.text? "DB_PORT").getD "5432" = port) (huser : env.text "DB_USER" = .ok user)
    (hpassword : env.text "DB_PASSWORD" = .ok password) (hname : env.text "DB_NAME" = .ok name) :
    storage? env =
      .ok (.database (databaseSettings env s!"postgres://{user}:{password}@{host}:{port}/{name}")) := by
  rw [storage?, hpath, ← hport]
  simp only [databaseUrl?, haddress, hhost, component_of_ok huser, component_of_ok hpassword, component_of_ok hname]
  rfl

theorem assembled_of_host : Assembled env (Bytes.ofText host) (storage? env) := by
  rcases huser : env.text "DB_USER" with cause | user
  · rw [storage?_of_no_user hpath haddress hhost huser]
    refine .incomplete ?_ huser
    simp [text?_of_error huser]
  rcases hpassword : env.text "DB_PASSWORD" with cause | password
  · rw [storage?_of_no_password hpath haddress hhost huser hpassword]
    refine .incomplete ?_ hpassword
    simp [text?_of_ok huser, text?_of_error hpassword]
  rcases hname : env.text "DB_NAME" with cause | name
  · rw [storage?_of_no_name hpath haddress hhost huser hpassword hname]
    refine .incomplete ?_ hname
    simp [text?_of_ok huser, text?_of_ok hpassword, text?_of_error hname]
  rw [storage?_of_parts hpath haddress hhost rfl huser hpassword hname]
  exact .address rfl rfl huser hpassword hname

end Host

theorem follows_storage? (env : Environment) : Follows env (storage? env) where
  path _ hfills := storage?_of_path hfills.nonEmpty?
  address hpath _ hfills := storage?_of_address hpath.nonEmpty? hfills.nonEmpty?
  memory hpath haddress hhost := storage?_of_nothing hpath.nonEmpty? haddress.nonEmpty? (text?_of_missing hhost)

theorem Assembled.isText_or_error (h : Assembled env value result) : value.IsText ∨ ∃ failure, result = .error failure := by
  cases h with
  | address hmachine => exact .inl ⟨_, hmachine⟩
  | incomplete => exact .inr ⟨_, rfl⟩

theorem Assembled.ne_memory (h : Assembled env value result) : result ≠ .ok .memory := by
  cases h <;> exact nofun

theorem ofEnvironment?_congr (htext? : ∀ name, env.text? name = env'.text? name)
    (htext : ∀ name ∈ ["DB_USER", "DB_PASSWORD", "DB_NAME"], env.text name = env'.text name) :
    ofEnvironment? processors env = ofEnvironment? processors env' := by
  have huser : component env "DB_USER" = component env' "DB_USER" := congrArg _ (htext _ (by simp))
  have hpassword : component env "DB_PASSWORD" = component env' "DB_PASSWORD" := congrArg _ (htext _ (by simp))
  have hname : component env "DB_NAME" = component env' "DB_NAME" := congrArg _ (htext _ (by simp))
  simp only [ofEnvironment?, storage?, databaseUrl?, databaseSettings, number, nonEmpty?, htext?, huser, hpassword,
    hname]

/-- A value that is no text changes nothing: the settings are those of an environment without it. -/
theorem ofEnvironment?_unset (hname : name ∉ ["DB_USER", "DB_PASSWORD", "DB_NAME"])
    (hlookup : env.lookup name = some value) (hvalue : ¬ value.IsText) :
    ofEnvironment? processors (env.unset name) = ofEnvironment? processors env := by
  refine ofEnvironment?_congr (fun other => ?_) fun other hother => ?_
  · by_cases hsame : other = name
    · rw [hsame, text?_of_missing lookup_unset_self, text?_of_not_isText hlookup hvalue]
    · exact congrArg Except.toOption (text_congr (lookup_unset_of_ne hsame))
  · refine text_congr (lookup_unset_of_ne ?_)
    rintro rfl
    exact hname hother

theorem HeedsSet.heeds (h : HeedsSet env result) : Heeds env result := by
  refine ⟨h, fun hmemory => ?_⟩
  have hpath : env.Vacant "FILE_STORAGE_PATH" := by
    refine (vacant_or_fills env _).resolve_right ?_
    rintro ⟨value, hfills⟩
    rcases h.path value hfills with ⟨path, -, hfile⟩ | ⟨failure, hfailure⟩
    · exact nomatch hmemory.symm.trans hfile
    · exact nomatch hmemory.symm.trans hfailure
  have haddress : env.Vacant "DATABASE_URL" := by
    refine (vacant_or_fills env _).resolve_right ?_
    rintro ⟨value, hfills⟩
    rcases h.address hpath value hfills with ⟨url, -, hdatabase⟩ | ⟨failure, hfailure⟩
    · exact nomatch hmemory.symm.trans hdatabase
    · exact nomatch hmemory.symm.trans hfailure
  refine ⟨hpath, haddress, Option.eq_none_iff_forall_ne_some.mpr fun value hset => ?_⟩
  exact (h.host hpath haddress value hset).ne_memory hmemory

theorem Heeds.isText_or_error (h : Heeds env result) (hdecides : env.Decides name value) :
    value.IsText ∨ ∃ failure, result = .error failure := by
  cases hdecides with
  | path hfills => exact (h.path value hfills).imp_left fun ⟨path, hpath, _⟩ => ⟨path, hpath⟩
  | address hpath hfills => exact (h.address hpath value hfills).imp_left fun ⟨url, hurl, _⟩ => ⟨url, hurl⟩
  | host hpath haddress hset => exact (h.host hpath haddress value hset).isText_or_error

theorem heeds_storage? (h : ∀ name value, env.Decides name value →
    value.IsText ∨ ∃ failure, storage? env = .error failure) : Heeds env (storage? env) := by
  refine HeedsSet.heeds ⟨fun value hfills => ?path, fun hpath value hfills => ?address,
    fun hpath haddress value hset => ?host⟩
  case path =>
    refine (h _ _ (.path hfills)).imp_left ?_
    rintro ⟨path, rfl⟩
    exact ⟨path, rfl, (follows_storage? env).path path hfills⟩
  case address =>
    refine (h _ _ (.address hpath hfills)).imp_left ?_
    rintro ⟨url, rfl⟩
    exact ⟨url, rfl, (follows_storage? env).address hpath url hfills⟩
  case host =>
    by_cases hvalue : value.IsText
    · obtain ⟨machine, rfl⟩ := hvalue
      exact assembled_of_host hpath.nonEmpty? haddress.nonEmpty? (text?_eq_some_iff.mpr hset)
    · -- A host that is no text would not let the settings fail, but select memory.
      obtain ⟨failure, hfailure⟩ := (h _ _ (.host hpath haddress hset)).resolve_left hvalue
      have hmemory : storage? env = .ok .memory :=
        storage?_of_nothing hpath.nonEmpty? haddress.nonEmpty? (text?_of_not_isText hset hvalue)
      exact nomatch hmemory.symm.trans hfailure

/-- The variables are heeded exactly where the one that is to decide holds a text or the settings fail, and texts are
followed. A value that is no text is passed over as if its variable were not set, unless it is a part of an address that
has to be there. -/
theorem selection_heeds (processors : Nat) (env : Environment) :
    (Heeds env (selected processors env) ↔
      ∀ name value, env.Decides name value → value.IsText ∨ ∃ failure, selected processors env = .error failure) ∧
    Follows env (selected processors env) ∧
    ∀ name ∉ ["DB_USER", "DB_PASSWORD", "DB_NAME"], ∀ value, env.lookup name = some value → ¬ value.IsText →
      selected processors (env.unset name) = selected processors env := by
  refine ⟨?heeds, ?follows, fun name hname value hlookup hvalue => ?passed⟩
  case heeds =>
    rw [selected_eq]
    exact ⟨fun h name value hdecides => h.isText_or_error hdecides, heeds_storage?⟩
  case follows =>
    rw [selected_eq]
    exact follows_storage? env
  case passed => exact congrArg (Except.map Settings.storage) (ofEnvironment?_unset hname hlookup hvalue)

def strayPath : Environment := [("FILE_STORAGE_PATH", [0x2F, 0xFF])]

def strayHost : Environment := [("DB_HOST", [0xFF])]

/-- Entries are kept in memory although a path is set, and although a host is. -/
theorem stray_selects_memory :
    selected 1 strayPath = .ok .memory ∧ ¬ Heeds strayPath (selected 1 strayPath) ∧
    selected 1 strayHost = .ok .memory ∧ ¬ Heeds strayHost (selected 1 strayHost) := by
  have hpath : selected 1 strayPath = .ok .memory := rfl
  have hhost : selected 1 strayHost = .ok .memory := rfl
  refine ⟨hpath, fun h => ?_, hhost, fun h => ?_⟩
  · obtain ⟨hvacant, -⟩ := h.memory hpath
    have hfills : strayPath.Fills "FILE_STORAGE_PATH" [0x2F, 0xFF] := ⟨rfl, nofun⟩
    exact hvacant.not_fills hfills
  · obtain ⟨-, -, hunset⟩ := h.memory hhost
    exact nomatch hunset

end Settings
end ShortLinks
