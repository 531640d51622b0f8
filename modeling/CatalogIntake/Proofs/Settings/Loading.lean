import CatalogIntake.Proofs.Settings.EnvFile

/-!
Settings come back from the variables that are set to them if their data directory is a text. A file
of variables beside the environment does not change that, unless loading is aborted at a NUL in it;
and whatever is loaded, from any variables and any file, can be used and fits the types of its
fields.
-/

namespace CatalogIntake.Settings

open Number Text Environment

structure Figure where
  name : String
  bits : Nat
  value : Nat

def figures (s : Settings) : List Figure :=
  [⟨"DATABASE_MAX_CONNECTIONS", 32, s.database.maxConnections⟩,
   ⟨"DATABASE_MIN_CONNECTIONS", 32, s.database.minConnections⟩,
   ⟨"DATABASE_CONNECT_TIMEOUT", 64, s.database.connectTimeoutSeconds⟩,
   ⟨"DATABASE_IDLE_TIMEOUT", 64, s.database.idleTimeoutSeconds⟩,
   ⟨"IMPORT_CHUNK_SIZE", 64, s.importing.chunkSize⟩,
   ⟨"IMPORT_WORKER_COUNT", 64, s.importing.workerCount⟩,
   ⟨"IMPORT_STORE_BATCH_SIZE", 64, s.importing.storeBatchSize⟩,
   ⟨"IMPORT_PUBLISH_RETRIES", 32, s.importing.publishRetries⟩,
   ⟨"IMPORT_PUBLISH_RETRY_DELAY_MS", 64, s.importing.publishRetryDelayMs⟩,
   ⟨"IMPORT_CHANNEL_CAPACITY", 64, s.importing.channelCapacity⟩,
   ⟨"IMPORT_BUS_CAPACITY", 64, s.importing.busCapacity⟩,
   ⟨"IMPORT_QUEUE_POLL_INTERVAL_MS", 64, s.queue.pollIntervalMs⟩,
   ⟨"IMPORT_QUEUE_VISIBILITY_TIMEOUT_SECS", 64, s.queue.visibilityTimeoutSeconds⟩]

/-- The settings that are taken as they are, with their variables. -/
def strings (s : Settings) : List (String × List UInt8) :=
  [("DATABASE_URL", Utf8.encode s.database.url), ("IMPORT_DATA_DIR", s.importing.dataDir.octets),
   ("IMPORT_ROUTING_KEY", Utf8.encode s.queue.routingKey)]

def policyName : String := "IMPORT_PARSE_FAILURES"

def Fits (s : Settings) : Prop := ∀ figure ∈ s.figures, figure.value < 2 ^ figure.bits

instance (s : Settings) : Decidable s.Fits :=
  inferInstanceAs (Decidable (∀ figure ∈ s.figures, figure.value < 2 ^ figure.bits))

/-- The variables show these settings. -/
structure Shown (s : Settings) (env : Environment) : Prop where
  figures : ∀ figure ∈ s.figures, env.Sets figure.name (WritesNumber figure.value)
  strings : ∀ entry ∈ s.strings, env.octets? entry.1 = some entry.2
  policy : env.Sets policyName (NamesPolicy s.importing.parseFailures)

/-- The variables that the settings are written to, numbers with no zeros in front of them. -/
def written (s : Settings) : Environment :=
  (policyName, Utf8.encode s.importing.parseFailures.name) :: s.strings ++
    s.figures.map fun figure =>
      (figure.name, Utf8.encode (String.ofList (Nat.toDigits 10 figure.value)))

variable {s : Settings} {env later : Environment}

theorem names_written (s : Settings) : (s.written.map Prod.fst).Nodup := by
  simp [written, strings, figures, policyName]

theorem shown_written (s : Settings) (others : Environment) :
    s.Shown (s.written ++ others) := by
  have hset : ∀ {name octets}, (name, octets) ∈ s.written →
      octets? (s.written ++ others) name = some octets := fun h =>
    octets?_append others (octets?_of_mem (names_written s) h)
  refine ⟨?_, ?_, ?_⟩
  · intro figure hfigure
    refine ⟨_, get?_of_octets? (hset ?_), writesNumber_toDigits figure.value⟩
    exact List.mem_append_right _ (List.mem_map_of_mem hfigure)
  · intro entry hentry
    apply hset
    exact List.mem_append_left _ (List.mem_cons_of_mem _ hentry)
  · exact ⟨_, get?_of_octets? (hset List.mem_cons_self), namesPolicy_name _⟩

theorem read_of_shown (hfits : s.Fits) (hdir : s.importing.dataDir.IsText) (h : s.Shown env)
    (keeps : env.Keeps later) : read later = .ok s := by
  have hfigures : ∀ figure ∈ s.figures, ∀ default,
      later.natural (.unsigned figure.bits) figure.name default = .ok figure.value :=
    fun figure hmem => natural_of_sets (hfits figure hmem) ((h.figures figure hmem).mono keeps)
  -- a variable that holds no text counts as unset, so that the file may have changed it
  have hget : ∀ {name text}, (name, Utf8.encode text) ∈ s.strings → later.get? name = some text :=
    fun hmem => keeps _ _ (get?_of_octets? (h.strings _ hmem))
  have hurl : later.get? "DATABASE_URL" = some s.database.url := hget List.mem_cons_self
  have hkey : later.get? "IMPORT_ROUTING_KEY" = some s.queue.routingKey :=
    hget (List.mem_cons_of_mem _ (List.mem_cons_of_mem _ List.mem_cons_self))
  obtain ⟨dir, hdir⟩ := hdir
  have hfound : later.get? "IMPORT_DATA_DIR" = some dir := by
    apply hget
    unfold strings
    rw [hdir]
    exact List.mem_cons_of_mem _ List.mem_cons_self
  have hpolicy := policy_of_sets (h.policy.mono keeps)
  simp only [figures, policyName, List.forall_mem_cons] at hfigures hpolicy
  simp only [read, text, path, Width.u32, Width.u64, hfigures, hurl, hkey, hfound, ← hdir, hpolicy,
    Option.map_some, Option.getD_some, bind, Except.bind, pure, Except.pure]

theorem bind_eq_ok {ε α β : Type} {x : Except ε α} {f : α → Except ε β} {b : β}
    (h : (x >>= f) = .ok b) : ∃ a, x = .ok a ∧ f a = .ok b := by
  cases x with
  | error e => cases h
  | ok a => exact ⟨a, rfl, h⟩

theorem fits_of_read (h : read env = .ok s) : s.Fits ∧ s.importing.dataDir.IsText := by
  obtain ⟨maxConnections, hmax, h⟩ := bind_eq_ok h
  obtain ⟨minConnections, hmin, h⟩ := bind_eq_ok h
  obtain ⟨connectTimeout, hconnect, h⟩ := bind_eq_ok h
  obtain ⟨idleTimeout, hidle, h⟩ := bind_eq_ok h
  obtain ⟨chunkSize, hchunk, h⟩ := bind_eq_ok h
  obtain ⟨workerCount, hworker, h⟩ := bind_eq_ok h
  obtain ⟨storeBatchSize, hstore, h⟩ := bind_eq_ok h
  obtain ⟨parseFailures, -, h⟩ := bind_eq_ok h
  obtain ⟨publishRetries, hretries, h⟩ := bind_eq_ok h
  obtain ⟨publishRetryDelay, hdelay, h⟩ := bind_eq_ok h
  obtain ⟨channelCapacity, hchannel, h⟩ := bind_eq_ok h
  obtain ⟨busCapacity, hbus, h⟩ := bind_eq_ok h
  obtain ⟨pollInterval, hpoll, h⟩ := bind_eq_ok h
  obtain ⟨visibilityTimeout, hvisibility, h⟩ := bind_eq_ok h
  cases h
  refine ⟨?_, isText_path env _ ⟨".", rfl⟩⟩
  simp only [Fits, figures, List.forall_mem_cons, List.not_mem_nil, false_implies, implies_true,
    and_true]
  exact ⟨lt_of_natural (by decide) hmax, lt_of_natural (by decide) hmin,
    lt_of_natural (by decide) hconnect, lt_of_natural (by decide) hidle,
    lt_of_natural (by decide) hchunk, lt_of_natural (by decide) hworker,
    lt_of_natural (by decide) hstore, lt_of_natural (by decide) hretries,
    lt_of_natural (by decide) hdelay, lt_of_natural (by decide) hchannel,
    lt_of_natural (by decide) hbus, lt_of_natural (by decide) hpoll,
    lt_of_natural (by decide) hvisibility⟩

section Load

variable {envFile : Option (List UInt8)}

/-- The settings are read from an environment that keeps what was set before the file, or the file
gives a variable that is not set a value with a NUL. -/
theorem load_cases (env : Environment) (envFile : Option (List UInt8)) :
    (∃ completed, load env envFile = (ofEnvironment completed).mapError .unusable ∧
      env.Keeps completed) ∨
    ∃ u, load env envFile = .error (.aborted u) ∧ env.Refuses u := by
  have houtcome := env.completed_outcome envFile
  unfold load
  cases hload : env.completed envFile with
  | ok completed =>
    rw [hload] at houtcome
    exact .inl ⟨completed, rfl, houtcome⟩
  | error u =>
    rw [hload] at houtcome
    exact .inr ⟨u, rfl, houtcome⟩

theorem not_aborted_of_clean (clean : env.IsClean) (file : ∀ octets ∈ envFile, 0 ∉ octets)
    (u : Unsettable) : load env envFile ≠ .error (.aborted u) := by
  obtain ⟨completed, hload⟩ := completed_clean clean file
  unfold load
  rw [hload]
  change (ofEnvironment completed).mapError LoadError.unusable ≠ .error (.aborted u)
  cases ofEnvironment completed <;> exact fun h => by cases h

theorem load_of_shown (hfits : s.Fits) (hdir : s.importing.dataDir.IsText)
    (hvalid : s.validate = .ok ()) (h : s.Shown env) :
    load env envFile = .ok s ∨ ∃ u, load env envFile = .error (.aborted u) ∧ env.Refuses u := by
  refine (load_cases env envFile).imp_left ?_
  rintro ⟨completed, hload, hkeeps⟩
  rw [hload, ofEnvironment, read_of_shown hfits hdir h hkeeps]
  change (s.validate >>= fun _ => .ok s).mapError _ = _
  rw [hvalid]
  rfl

theorem usable_of_load (h : load env envFile = .ok s) :
    s.validate = .ok () ∧ s.Fits ∧ s.importing.dataDir.IsText := by
  rcases load_cases env envFile with ⟨completed, hload, -⟩ | ⟨u, hload, -⟩
  · rw [hload] at h
    cases hsettings : ofEnvironment completed with
    | error e =>
      rw [hsettings] at h
      cases h
    | ok found =>
      rw [hsettings] at h
      cases h
      obtain ⟨_, hread, hfound⟩ := bind_eq_ok hsettings
      obtain ⟨_, hvalid, hfound⟩ := bind_eq_ok hfound
      cases hfound
      exact ⟨hvalid, fits_of_read hread⟩
  · rw [hload] at h
    cases h

/-- Settings whose data directory is a text round-trip through the environment, whatever file of
variables lies beside it, unless the file gives a variable that is not set a value with a NUL; the
variables can always be written. Nothing else is loaded than settings that can be used. -/
theorem load_round_trip (s : Settings) (envFile : Option (List UInt8)) :
    (s.Fits → s.importing.dataDir.IsText → s.validate = .ok () → ∀ env, s.Shown env →
      (load env envFile = .ok s ∨
        ∃ u, load env envFile = .error (.aborted u) ∧ env.Refuses u) ∧
      (env.IsClean → (∀ octets ∈ envFile, 0 ∉ octets) → load env envFile = .ok s)) ∧
    (∀ others, s.Shown (s.written ++ others)) ∧
    ∀ env, load env envFile = .ok s →
      s.validate = .ok () ∧ s.Fits ∧ s.importing.dataDir.IsText := by
  refine ⟨?_, s.shown_written, fun env => usable_of_load⟩
  intro hfits hdir hvalid env hshown
  have hload : load env envFile = .ok s ∨ _ := load_of_shown hfits hdir hvalid hshown
  refine ⟨hload, fun clean file => hload.resolve_right ?_⟩
  rintro ⟨u, habort, -⟩
  exact not_aborted_of_clean clean file u habort

end Load

section Example

def patient : Settings :=
  { database := { maxConnections := 24 }, importing := { parseFailures := .logOnly } }

/-- They are set with a zero and blanks around the number and capitals in the policy. -/
def patientVariables : Environment :=
  [("DATABASE_MAX_CONNECTIONS", Utf8.encode "\t024 \n"), (policyName, Utf8.encode " Log-ONLY")] ++
    patient.written

def hastyFile : List UInt8 :=
  Utf8.encode "DATABASE_MAX_CONNECTIONS=7\nIMPORT_PARSE_FAILURES=count\nIMPORT_CHUNK_SIZE=none\n"

theorem patient_shown : patient.Shown patientVariables := by
  refine ⟨?_, ?_, ?_⟩
  · have hmax : patientVariables.Sets "DATABASE_MAX_CONNECTIONS" (WritesNumber 24) :=
      ⟨_, get?_of_octets? rfl, ['0', '2', '4'], by decide, by decide, rfl, ['\t'], [' ', '\n'], rfl,
        rfl, by decide⟩
    have others : ∀ figure ∈ patient.figures.tail, patientVariables.octets? figure.name =
        some (Utf8.encode (String.ofList (Nat.toDigits 10 figure.value))) := by
      decide +kernel
    refine List.forall_mem_cons.mpr ⟨hmax, fun figure hfigure => ?_⟩
    exact ⟨_, get?_of_octets? (others figure hfigure), writesNumber_toDigits figure.value⟩
  · decide +kernel
  · exact ⟨_, get?_of_octets? rfl, "Log-ONLY".toList, by decide, [' '], [], rfl, rfl, by decide⟩

theorem patient_loaded :
    patient.Fits ∧ patient.importing.dataDir.IsText ∧ patient.validate = .ok () ∧
      patient.Shown patientVariables ∧ IsClean patientVariables ∧
      (∀ octets ∈ some hastyFile, 0 ∉ octets) ∧
      load patientVariables (some hastyFile) = .ok patient := by
  have hfits : patient.Fits := by decide
  have hdir : patient.importing.dataDir.IsText := ⟨".", rfl⟩
  have clean : IsClean patientVariables := by
    unfold IsClean
    decide +kernel
  have file : ∀ octets ∈ some hastyFile, 0 ∉ octets := by
    rintro _ ⟨⟩
    decide +kernel
  exact ⟨hfits, hdir, rfl, patient_shown, clean, file,
    ((load_round_trip patient (some hastyFile)).1 hfits hdir rfl patientVariables patient_shown).2
      clean file⟩

def nulFile : List UInt8 := Utf8.encode "X=\x00\n"

def latin : Settings := { importing := { dataDir := ⟨[0x64, 0xe9]⟩ } }

/-- A NUL in the file aborts the loading, and a data directory that is no text is not found. -/
theorem not_always_loaded :
    (patient.Fits ∧ patient.validate = .ok () ∧ (∀ entry ∈ patient.strings, 0 ∉ entry.2) ∧
      patient.Shown patientVariables ∧
      load patientVariables (some nulFile) = .error (.aborted ⟨"X", "\x00"⟩)) ∧
    latin.Fits ∧ latin.validate = .ok () ∧ (∀ entry ∈ latin.strings, 0 ∉ entry.2) ∧
      latin.Shown latin.written ∧ load latin.written none = .ok {} ∧ latin ≠ {} := by
  have patientStrings : ∀ entry ∈ patient.strings, 0 ∉ entry.2 := by decide +kernel
  have latinStrings : ∀ entry ∈ latin.strings, 0 ∉ entry.2 := by decide +kernel
  have shown := latin.shown_written []
  rw [List.append_nil] at shown
  refine ⟨⟨by decide, rfl, patientStrings, patient_shown, ?_⟩, by decide, rfl, latinStrings, shown,
    ?_, by decide +kernel⟩
  · decide +kernel
  · decide +kernel

end Example

end CatalogIntake.Settings
