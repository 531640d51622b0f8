import CatalogIntake.Proofs.Settings.Environment
import CatalogIntake.Proofs.Text.Utf8
import CatalogIntake.Settings.EnvFile

/-!
What a file of variables leaves of an environment: a variable that is set keeps its value, whatever
the file says. Loading is aborted only at a value with a NUL, and such a value only comes from a NUL
in the file.
-/

namespace CatalogIntake.EnvFile

open Text

theorem loadLines_outcome (env : Environment) (lines : List (Option (List Char))) :
    match loadLines env lines with
    | .ok later => env.Keeps later
    | .error u => env.Refuses u := by
  induction lines generalizing env with
  | nil => exact fun _ _ h => h
  | cons line rest ih =>
    cases line with
    | none => exact fun _ _ h => h
    | some line =>
      rw [loadLines]
      cases readLine env line with
      | none => exact fun _ _ h => h
      | some line =>
        cases line with
        | empty => exact ih env
        | assignment name value =>
          simp only
          rcases env.addMissing_cases name value with hadd | ⟨unset, -, hadd⟩ | ⟨refuses, hadd⟩
          · rw [hadd]
            exact ih env
          · rw [hadd]
            have added := Environment.keeps_cons unset (Utf8.encode value)
            have later := ih ((name, Utf8.encode value) :: env)
            simp only
            split at later
            · exact fun _ _ h => later _ _ (added _ _ h)
            · exact later.of_later added
          · rw [hadd]
            exact refuses

/-- The file adds variables and changes none, or it is given up at one that must not be set. -/
theorem load_outcome (env : Environment) (octets : List UInt8) :
    match load env octets with
    | .ok later => env.Keeps later
    | .error u => env.Refuses u :=
  loadLines_outcome env _

section Clean

variable {env : Environment} {octets : List UInt8}

theorem decoded_nul {line : List UInt8} {text : List Char}
    (h : physicalLines.decoded line = some text) (nul : '\x00' ∈ text) : 0 ∈ line := by
  unfold physicalLines.decoded at h
  obtain ⟨s, hdecode, rfl⟩ := Option.map_eq_some_iff.mp h
  exact List.mem_reverse.mp (Utf8.zero_mem_of_decode hdecode nul)

theorem zero_mem_of_go {line : List UInt8} {text : List Char}
    (h : text ∈ physicalLines.go line octets) (nul : '\x00' ∈ text) :
    0 ∈ line ∨ 0 ∈ octets := by
  induction octets generalizing line with
  | nil =>
    unfold physicalLines.go at h
    split at h
    · cases h
    · exact .inl (decoded_nul (Option.mem_toList.mp h) nul)
  | cons b rest ih =>
    unfold physicalLines.go at h
    split at h
    · split at h
      · rename_i first hfirst
        rcases List.mem_cons.mp h with rfl | h
        · rcases List.mem_cons.mp (decoded_nul hfirst nul) with rfl | hline
          · exact .inr List.mem_cons_self
          · exact .inl hline
        · rcases ih h with hline | hrest
          · cases hline
          · exact .inr (List.mem_cons_of_mem b hrest)
      · cases h
    · rcases ih h with hline | hrest
      · rcases List.mem_cons.mp hline with rfl | hline
        · exact .inr List.mem_cons_self
        · exact .inl hline
      · exact .inr (List.mem_cons_of_mem b hrest)

theorem scanLine_kept {state : LineState} {before line kept : List Char}
    (h : (scanLine state before line).2 = some kept) : kept ⊆ before ++ line := by
  induction line generalizing state before with
  | nil => cases h
  | cons c rest ih =>
    unfold scanLine at h
    split at h
    · obtain rfl := Option.some.inj h
      intro d hd
      exact List.mem_append_left _ (List.mem_reverse.mp hd)
    · intro d hd
      have hall := ih h hd
      simp only [List.mem_append, List.mem_cons] at hall ⊢
      tauto

theorem dropLineEnd_subset (line : List Char) : dropLineEnd line ⊆ line := by
  unfold dropLineEnd
  have hreverse : ∀ rest : List Char, rest ⊆ line.reverse → rest.reverse ⊆ line := by
    intro rest hrest c hc
    exact List.mem_reverse.mp (hrest (List.mem_reverse.mp hc))
  split
  · rename_i rest hline
    apply hreverse
    rw [hline]
    exact List.subset_cons_of_subset _ (List.subset_cons_self _ _)
  · rename_i rest _ hline
    apply hreverse
    rw [hline]
    exact List.subset_cons_self _ _
  · exact List.Subset.refl line

theorem mem_of_logicalLines {state : LineState} {pending line : List Char}
    {lines : List (List Char)} (h : some line ∈ logicalLines state pending lines) {c : Char}
    (hc : c ∈ line) : c ∈ pending ∨ ∃ first ∈ lines, c ∈ first := by
  -- `pending` holds the lines that an open quote or an escaped end joins to the next one
  induction lines generalizing state pending with
  | nil =>
    unfold logicalLines at h
    split at h
    · cases h
    · cases List.mem_singleton.mp h
  | cons first rest ih =>
    have onward {state' : LineState} {pending' : List Char} (hpending : pending' ⊆ pending ++ first)
        (h : some line ∈ logicalLines state' pending' rest) :
        c ∈ pending ∨ ∃ later ∈ first :: rest, c ∈ later := by
      rcases ih h with hold | ⟨later, hlater, hmem⟩
      · rcases List.mem_append.mp (hpending hold) with hold | hfirst
        · exact .inl hold
        · exact .inr ⟨first, List.mem_cons_self, hfirst⟩
      · exact .inr ⟨later, List.mem_cons_of_mem _ hlater, hmem⟩
    have here (hline : line ⊆ pending ++ first) :
        c ∈ pending ∨ ∃ later ∈ first :: rest, c ∈ later := by
      rcases List.mem_append.mp (hline hc) with hold | hfirst
      · exact .inl hold
      · exact .inr ⟨first, List.mem_cons_self, hfirst⟩
    unfold logicalLines at h
    simp only at h
    split at h
    · rcases List.mem_cons.mp h with heq | h
      · obtain rfl := Option.some.inj heq
        cases hc
      · exact onward (List.nil_subset _) h
    · split at h
      · rename_i kept hscan
        rcases List.mem_cons.mp h with heq | h
        · obtain rfl := Option.some.inj heq
          have hkept := scanLine_kept (congrArg Prod.snd hscan)
          rw [List.nil_append] at hkept
          exact here (List.append_subset.mpr
            ⟨List.subset_append_left _ _, List.subset_append_of_subset_right _ hkept⟩)
        · exact onward (List.nil_subset _) h
      · rcases List.mem_cons.mp h with heq | h
        · obtain rfl := Option.some.inj heq
          exact here (dropLineEnd_subset _)
        · exact onward (List.nil_subset _) h
      · exact onward (List.Subset.refl _) h

theorem skipBlank_subset (cs : List Char) : skipBlank cs ⊆ cs :=
  (List.dropWhile_sublist _).subset

theorem dropBlankEnd_subset (cs : List Char) : dropBlankEnd cs ⊆ cs := by
  intro c hc
  have hdropped := (List.dropWhile_sublist isBlank).subset (List.mem_reverse.mp hc)
  exact List.mem_reverse.mp hdropped

theorem readName_subset {cs rest : List Char} {name : String}
    (h : readName cs = some (name, rest)) : rest ⊆ cs := by
  unfold readName at h
  split at h
  · split at h
    · obtain rfl := (Prod.mk.inj (Option.some.inj h)).2
      exact (List.dropWhile_sublist _).subset
    · cases h
  · cases h

theorem expectEquals_subset {cs rest : List Char} (h : expectEquals cs = some rest) :
    rest ⊆ cs := by
  unfold expectEquals at h
  split at h
  · obtain rfl := Option.some.inj h
    exact List.subset_cons_self _ _
  · cases h

theorem readTarget_subset {cs rest : List Char} {name : String}
    (h : readTarget cs = some (name, rest)) : rest ⊆ cs := by
  unfold readTarget at h
  obtain ⟨⟨first, after⟩, hname, h⟩ := Option.bind_eq_some_iff.mp h
  have hafter := readName_subset hname
  simp only at h
  split at h
  · rename_i rest' hequals
    obtain rfl := (Prod.mk.inj (Option.some.inj h)).2
    exact fun c hc => hafter (skipBlank_subset _ (expectEquals_subset hequals hc))
  · split at h
    · obtain ⟨⟨second, after'⟩, hname', h⟩ := Option.bind_eq_some_iff.mp h
      obtain ⟨rest', hequals, h⟩ := Option.bind_eq_some_iff.mp h
      obtain rfl := (Prod.mk.inj (Option.some.inj h)).2
      have hafter' := readName_subset hname'
      exact fun c hc => hafter (skipBlank_subset _
        (hafter' (skipBlank_subset _ (expectEquals_subset hequals hc))))
    · cases h

theorem referenced_clean (clean : env.IsClean) (name : List Char) :
    '\x00' ∉ referenced env name := by
  unfold referenced
  cases hget : env.get? (String.ofList name.reverse) with
  | none => exact List.not_mem_nil
  | some text =>
    obtain ⟨octets, hlookup, htext⟩ := Option.bind_eq_some_iff.mp hget
    obtain ⟨before, after, rfl, -⟩ := List.lookup_eq_some_iff.mp hlookup
    have hoctets := clean _ (List.mem_append_right before List.mem_cons_self)
    exact fun nul => hoctets (Utf8.zero_mem_of_decode htext nul)

namespace Value

variable {v w : Value} {c : Char}

theorem put_clean (clean : '\x00' ∉ v.text) (hc : c ≠ '\x00') (mode : Mode) :
    '\x00' ∉ (v.put mode c).text := by
  unfold put
  rintro (_ | ⟨_, hmem⟩)
  · exact hc rfl
  · exact clean hmem

theorem substitute_clean (env_ : env.IsClean) (clean : '\x00' ∉ v.text) (name : List Char)
    (mode : Mode) : '\x00' ∉ (v.substitute env name mode).text := by
  unfold substitute
  intro hmem
  rcases List.mem_append.mp hmem with hmem | hmem
  · exact referenced_clean env_ name (List.mem_reverse.mp hmem)
  · exact clean hmem

theorem plainStep_clean (clean : '\x00' ∉ v.text) (hc : c ≠ '\x00') :
    '\x00' ∉ (v.plainStep c).text := by
  unfold plainStep
  repeat' split
  all_goals first | exact clean | exact put_clean clean hc _

theorem escapedChar?_ne {d : Char} (hc : c ≠ '\x00') (h : escapedChar? c = some d) :
    d ≠ '\x00' := by
  unfold escapedChar? at h
  split at h
  · obtain rfl := Option.some.inj h
    decide
  · split at h
    · exact Option.some.inj h ▸ hc
    · cases h

theorem step_clean (env_ : env.IsClean) (clean : '\x00' ∉ v.text) (hc : c ≠ '\x00')
    (h : v.step env c = some w) : '\x00' ∉ w.text := by
  -- a step adds the character, what it is an escape of, or the value of a variable, or nothing
  unfold step at h
  cases hmode : v.mode with
  | comment =>
    rw [hmode] at h
    obtain rfl := Option.some.inj h
    exact clean
  | trailing =>
    simp only [hmode] at h
    repeat' split at h
    all_goals cases h
    all_goals exact clean
  | escape inWeak =>
    simp only [hmode] at h
    obtain ⟨d, hd, rfl⟩ := Option.map_eq_some_iff.mp h
    exact put_clean clean (escapedChar?_ne hc hd) _
  | strong =>
    simp only [hmode] at h
    split at h <;> obtain rfl := Option.some.inj h
    · exact clean
    · exact put_clean clean hc _
  | weak =>
    simp only [hmode] at h
    repeat' split at h
    all_goals obtain rfl := Option.some.inj h
    all_goals first | exact clean | exact put_clean clean hc _
  | reference inWeak name =>
    simp only [hmode] at h
    repeat' split at h
    all_goals obtain rfl := Option.some.inj h
    all_goals first
      | exact clean
      | exact substitute_clean env_ clean _ _
      | exact put_clean (substitute_clean env_ clean _ _) hc _
  | bracedReference inWeak name =>
    simp only [hmode] at h
    split at h <;> obtain rfl := Option.some.inj h
    · exact substitute_clean env_ clean _ _
    · exact clean
  | plain =>
    simp only [hmode] at h
    obtain rfl := Option.some.inj h
    exact plainStep_clean clean hc

theorem steps_clean (env_ : env.IsClean) {cs : List Char} (clean : '\x00' ∉ v.text)
    (hcs : '\x00' ∉ cs) (h : cs.foldlM (Value.step env) v = some w) : '\x00' ∉ w.text := by
  induction cs generalizing v with
  | nil => exact Option.some.inj h ▸ clean
  | cons c rest ih =>
    obtain ⟨hc, hrest⟩ := not_or.mp (mt List.mem_cons.mpr hcs)
    rw [List.foldlM_cons] at h
    obtain ⟨next, hstep, h⟩ := Option.bind_eq_some_iff.mp h
    exact ih (step_clean env_ clean (Ne.symm hc) hstep) hrest h

theorem finish_clean (env_ : env.IsClean) (clean : '\x00' ∉ v.text) {value : String}
    (h : v.finish env = some value) : '\x00' ∉ value.toList := by
  unfold finish at h
  split at h
  all_goals cases h
  all_goals rw [String.toList_ofList, List.mem_reverse]
  · exact substitute_clean env_ clean _ _
  · exact clean

end Value

theorem readLine_clean (env_ : env.IsClean) {line : List Char} (hline : '\x00' ∉ line)
    {name value : String} (h : readLine env line = some (.assignment name value)) :
    '\x00' ∉ value.toList := by
  unfold readLine at h
  simp only at h
  split at h
  · cases h
  · obtain ⟨⟨target, rest⟩, htarget, h⟩ := Option.bind_eq_some_iff.mp h
    simp only at h
    split at h
    · cases h
      exact List.not_mem_nil
    · obtain ⟨found, hread, h⟩ := Option.bind_eq_some_iff.mp h
      cases h
      obtain ⟨last, hsteps, hfinish⟩ := Option.bind_eq_some_iff.mp hread
      refine Value.finish_clean env_ (Value.steps_clean env_ List.not_mem_nil ?_ hsteps) hfinish
      intro hmem
      apply hline
      exact dropBlankEnd_subset _ (skipBlank_subset _
        (readTarget_subset htarget (skipBlank_subset _ hmem)))

theorem loadLines_clean (env_ : env.IsClean) {lines : List (Option (List Char))}
    (hlines : ∀ line, some line ∈ lines → '\x00' ∉ line) :
    ∃ later, loadLines env lines = .ok later := by
  induction lines generalizing env with
  | nil => exact ⟨env, rfl⟩
  | cons line rest ih =>
    have hrest (later : List Char) (hlater : some later ∈ rest) : '\x00' ∉ later :=
      hlines later (List.mem_cons_of_mem _ hlater)
    cases line with
    | none => exact ⟨env, rfl⟩
    | some line =>
      rw [loadLines]
      cases hread : readLine env line with
      | none => exact ⟨env, rfl⟩
      | some read =>
        cases read with
        | empty => exact ih env_ hrest
        | assignment name value =>
          have hvalue := readLine_clean env_ (hlines line List.mem_cons_self) hread
          simp only
          rcases env.addMissing_cases name value with hadd | ⟨-, -, hadd⟩ | ⟨⟨-, hnul⟩, -⟩
          · rw [hadd]
            exact ih env_ hrest
          · rw [hadd]
            refine ih (fun entry hentry => ?_) hrest
            rcases List.mem_cons.mp hentry with rfl | hentry
            · exact mt Utf8.nul_mem_of_encode hvalue
            · exact env_ entry hentry
          · exact absurd hnul hvalue

theorem load_clean (env_ : env.IsClean) (hoctets : 0 ∉ octets) :
    ∃ later, load env octets = .ok later := by
  unfold load
  apply loadLines_clean env_
  intro line hline hnul
  rcases mem_of_logicalLines hline hnul with hnone | ⟨first, hfirst, hnul⟩
  · cases hnone
  · rcases zero_mem_of_go hfirst hnul with hnone | hzero
    · cases hnone
    · apply hoctets
      split at hzero
      · exact List.mem_of_mem_drop hzero
      · exact hzero

end Clean

end CatalogIntake.EnvFile

namespace CatalogIntake.Environment

theorem completed_outcome (env : Environment) (envFile : Option (List UInt8)) :
    match env.completed envFile with
    | .ok later => env.Keeps later
    | .error u => env.Refuses u := by
  cases envFile with
  | none => exact fun _ _ h => h
  | some octets => exact EnvFile.load_outcome env octets

theorem completed_clean {env : Environment} {envFile : Option (List UInt8)} (clean : env.IsClean)
    (file : ∀ octets ∈ envFile, 0 ∉ octets) : ∃ later, env.completed envFile = .ok later := by
  cases envFile with
  | none => exact ⟨env, rfl⟩
  | some octets => exact EnvFile.load_clean clean (file octets rfl)

end CatalogIntake.Environment
