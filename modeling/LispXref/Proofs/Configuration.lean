-- Runs of a program that is configured by its environment. Main statement: whatever loader of
-- files sets just the variables that are missing, no configuration changes a variable that is
-- set, one configuration is shared until it is forgotten, and a configuration is accepted
-- exactly where the settings of a search are.
import LispXref.Config.Basic
import LispXref.Proofs.SettingsFile

namespace LispXref

theorem Policy.name_of_ofName? {name : Text} {p : Policy} (h : ofName? name = some p) :
    p.name = name := by
  unfold ofName? at h
  simpa using List.find?_some h

namespace Config

/-! ## Variables -/

/-- No variable that is set gets another value. -/
def Environment.Keeps (env env' : Environment) : Prop :=
  ∀ name value, env.get? name = some value → env'.get? name = some value

theorem Loader.SetsMissing.keeps_load {loader : Loader} (hload : loader.SetsMissing)
    (env : Environment) (file : Text) : env.Keeps (loader.load env file) := by
  intro name value h
  rw [hload env file name, h, Option.some_or]

/-! ## Settings -/

/-- The settings of a search can be made, with the interval and the policy that the
environment gives. -/
def Environment.Admits (env : Environment) : Prop :=
  ∃ settings : Settings, env.settings = .ok settings ∧
    env.progressEvery = .ok settings.progressEvery ∧ 1 ≤ settings.progressEvery ∧
    env.policyName = settings.policy.name ∧
    (settings.policy.name = Text.of "abort" ∨ settings.policy.name = Text.of "skip")

namespace Environment

variable {env : Environment}

theorem one_le_of_progressEvery {n : Int} (h : env.progressEvery = .ok n) : 1 ≤ n := by
  unfold progressEvery at h
  dsimp only at h
  split at h
  · cases h
  · split at h
    · cases h
    · rename_i hle
      cases h
      exact Int.not_lt.1 hle

/-- Settings can be made under every configuration that is accepted. -/
theorem admits_of_validate (h : env.validate = .ok ()) : env.Admits := by
  unfold validate at h
  cases hn : env.progressEvery with
  | error e =>
    rw [hn] at h
    cases h
  | ok n =>
    rw [hn] at h
    dsimp only at h
    cases hp : Policy.ofName? env.policyName with
    | none =>
      rw [hp] at h
      cases h
    | some p =>
      have hpos := one_le_of_progressEvery hn
      refine ⟨⟨n.toNat, p, by omega⟩, ?_, ?_, ?_, (Policy.name_of_ofName? hp).symm, ?_⟩
      · unfold settings Settings.make
        rw [hn]
        simp only [dif_neg (Int.not_lt.2 hpos), hp]
      · rw [hn, Int.toNat_of_nonneg (by omega)]
      · show 1 ≤ n.toNat
        omega
      · cases p with
        | abort => exact .inl rfl
        | skip => exact .inr rfl

/-- Settings can be made under no configuration that is refused. -/
theorem settings_of_validate_error {e : Error} (h : env.validate = .error e) :
    ∃ e', env.settings = .error e' := by
  unfold validate at h
  unfold settings
  cases hn : env.progressEvery with
  | error e' => exact ⟨e', rfl⟩
  | ok n =>
    rw [hn] at h
    dsimp only at h
    cases hp : Policy.ofName? env.policyName with
    | some p =>
      rw [hp] at h
      cases h
    | none =>
      refine ⟨.settings (.unknownPolicy env.policyName), ?_⟩
      unfold Settings.make
      simp only [dif_neg (Int.not_lt.2 (one_le_of_progressEvery hn)), hp]

end Environment

/-! ## Steps -/

/-- What a program can do with its environment and its configuration. A configuration is
built from a file of settings, if there is one; for the shared configuration it is the file
that stands in its place at that time. -/
inductive Step where
  | set (name value : Text)
  | unset (name : Text)
  | reset
  | new (file : Option Text)
  | get (file : Option Text)

/-- A step that was taken: the states around it, and the configuration or the error that
a request for a configuration gave. -/
structure Event where
  before : State
  step : Step
  answer : Option (Except Error Nat)
  after : State

namespace State

variable [Loader]

/-- The answer to a step, if it has one, and the state after it. -/
def step (s : State) : Step → Option (Except Error Nat) × State
  | .set name value => (none, s.set name value)
  | .unset name => (none, s.unset name)
  | .reset => (none, s.reset)
  | .new file => (some (s.build file).1, (s.build file).2)
  | .get file => (some (s.getFrom file).1, (s.getFrom file).2)

/-- A step as an event. -/
def event (s : State) (step : Step) : Event := ⟨s, step, (s.step step).1, (s.step step).2⟩

/-- The events of a run. -/
def run (s : State) : List Step → List Event
  | [] => []
  | step :: steps => s.event step :: (s.event step).after.run steps

end State

namespace Event

def IsNew (e : Event) : Prop := ∃ file, e.step = .new file

def IsGet (e : Event) : Prop := ∃ file, e.step = .get file

/-- The step returned a configuration. -/
def Returns (e : Event) (n : Nat) : Prop := e.answer = some (.ok n)

/-- The step raised an error. -/
def Raises (e : Event) : Prop := ∃ error, e.answer = some (.error error)

/-- The step built a configuration: it answered, and left the environment, as building one
does. -/
def Builds [Loader] (e : Event) : Prop :=
  ∃ file, (e.step = .new file ∨ e.step = .get file) ∧ e.answer = some (e.before.build file).1 ∧
    e.after.environment = (e.before.build file).2.environment

end Event

/-! ## One step -/

namespace State

variable [loader : Loader]

theorem keeps_loaded (hload : loader.SetsMissing) (s : State) (file : Option Text) :
    s.environment.Keeps (s.loaded file) := by
  cases file with
  | none => exact fun _ _ h => h
  | some f => exact hload.keeps_load s.environment f

/-- Building a configuration gives it a new number if its environment is valid. -/
theorem build_cases (s : State) (file : Option Text) :
    (s.loaded file).validate = .ok () ∧
      s.build file = (.ok s.next, ⟨s.loaded file, s.shared, s.next + 1⟩) ∨
    ∃ e, (s.loaded file).validate = .error e ∧
      s.build file = (.error e, ⟨s.loaded file, s.shared, s.next⟩) := by
  unfold build
  cases (s.loaded file).validate with
  | ok _ => exact .inl ⟨rfl, rfl⟩
  | error e => exact .inr ⟨e, rfl, rfl⟩

theorem build_environment (s : State) (file : Option Text) :
    (s.build file).2.environment = s.loaded file := by
  rcases s.build_cases file with ⟨_, hb⟩ | ⟨e, _, hb⟩
  · rw [hb]
  · rw [hb]

theorem build_shared (s : State) (file : Option Text) : (s.build file).2.shared = s.shared := by
  rcases s.build_cases file with ⟨_, hb⟩ | ⟨e, _, hb⟩
  · rw [hb]
  · rw [hb]

/-- A configuration that is built gets the next number. -/
theorem build_next (s : State) (file : Option Text) :
    s.next ≤ (s.build file).2.next ∧
      ∀ n, (s.build file).1 = .ok n → n = s.next ∧ n < (s.build file).2.next := by
  rcases s.build_cases file with ⟨_, hb⟩ | ⟨e, _, hb⟩
  · rw [hb]
    refine ⟨Nat.le_succ s.next, fun n hn => ?_⟩
    cases hn
    exact ⟨rfl, Nat.lt_succ_self s.next⟩
  · rw [hb]
    exact ⟨Nat.le_refl s.next, nofun⟩

/-- A configuration can be built exactly where the settings of a search can be made. -/
theorem build_settings (s : State) (file : Option Text) :
    (∀ n, (s.build file).1 = .ok n → (s.build file).2.environment.Admits) ∧
      ∀ e, (s.build file).1 = .error e → ∃ e', (s.build file).2.environment.settings = .error e' := by
  rcases s.build_cases file with ⟨hv, hb⟩ | ⟨e, hv, hb⟩
  · rw [hb]
    exact ⟨fun _ _ => Environment.admits_of_validate hv, nofun⟩
  · rw [hb]
    exact ⟨nofun, fun _ _ => Environment.settings_of_validate_error hv⟩

/-- The shared configuration is returned if there is one, and else built, and kept if that
succeeds. -/
theorem getFrom_cases (s : State) (file : Option Text) :
    (∃ n, s.shared = some n ∧ s.getFrom file = (.ok n, s)) ∨
    s.shared = none ∧ s.getFrom file =
      ((s.build file).1, { (s.build file).2 with shared := (s.build file).1.toOption }) := by
  unfold getFrom
  cases h : s.shared with
  | some n => exact .inl ⟨n, rfl, rfl⟩
  | none =>
    refine .inr ⟨rfl, ?_⟩
    rcases s.build_cases file with ⟨_, hb⟩ | ⟨e, _, hb⟩
    · rw [hb]
      rfl
    · rw [hb]
      simp [h, Except.toOption]

/-- A shared configuration is one that was built. -/
def Sound (s : State) : Prop := ∀ n, s.shared = some n → n < s.next

theorem getFrom_next {s : State} (hs : s.Sound) (file : Option Text) :
    (s.getFrom file).2.Sound ∧ s.next ≤ (s.getFrom file).2.next ∧
      ∀ n, (s.getFrom file).1 = .ok n → n < (s.getFrom file).2.next := by
  rcases s.getFrom_cases file with ⟨m, h, hget⟩ | ⟨_, hget⟩
  · rw [hget]
    refine ⟨hs, Nat.le_refl s.next, fun n hn => ?_⟩
    cases hn
    exact hs _ h
  · obtain ⟨hle, hnew⟩ := s.build_next file
    rw [hget]
    refine ⟨fun n hn => ?_, hle, fun n hn => (hnew n hn).2⟩
    cases hb : (s.build file).1 with
    | ok m =>
      rw [hb] at hn
      cases hn
      exact (hnew _ hb).2
    | error e =>
      rw [hb] at hn
      cases hn

section Event

variable {s : State} {step : Step} {n : Nat}

theorem event_keeps (hload : loader.SetsMissing)
    (h : (s.event step).IsNew ∨ (s.event step).IsGet) :
    s.environment.Keeps (s.event step).after.environment := by
  have hbuild : ∀ file, s.environment.Keeps (s.build file).2.environment := by
    intro file
    rw [s.build_environment file]
    exact s.keeps_loaded hload file
  rcases h with ⟨file, rfl⟩ | ⟨file, rfl⟩
  · exact hbuild file
  · show s.environment.Keeps (s.getFrom file).2.environment
    rcases s.getFrom_cases file with ⟨m, _, hget⟩ | ⟨_, hget⟩
    · rw [hget]
      exact fun _ _ h => h
    · rw [hget]
      exact hbuild file

/-- What a request for the shared configuration returns is shared from then on. -/
theorem shared_of_returns (hg : (s.event step).IsGet) (hr : (s.event step).Returns n) :
    (s.event step).after.shared = some n := by
  obtain ⟨file, rfl⟩ := hg
  have hanswer : (s.getFrom file).1 = .ok n := Option.some.inj hr
  show (s.getFrom file).2.shared = some n
  rcases s.getFrom_cases file with ⟨m, h, hget⟩ | ⟨_, hget⟩
  · rw [hget] at hanswer ⊢
    cases hanswer
    exact h
  · rw [hget] at hanswer ⊢
    exact congrArg Except.toOption hanswer

/-- Nothing is shared where a request for the shared configuration raises, before it and
after it. -/
theorem shared_of_raises (hg : (s.event step).IsGet) (hr : (s.event step).Raises) :
    s.shared = none ∧ (s.event step).after.shared = none := by
  obtain ⟨file, rfl⟩ := hg
  obtain ⟨error, hr⟩ := hr
  have hanswer : (s.getFrom file).1 = .error error := Option.some.inj hr
  show s.shared = none ∧ (s.getFrom file).2.shared = none
  rcases s.getFrom_cases file with ⟨m, _, hget⟩ | ⟨h, hget⟩
  · rw [hget] at hanswer
    cases hanswer
  · rw [hget] at hanswer ⊢
    exact ⟨h, congrArg Except.toOption hanswer⟩

/-- Only a reset forgets the shared configuration. -/
theorem event_shared_some (h : s.shared = some n) (hstep : step ≠ .reset) :
    (s.event step).after.shared = some n := by
  cases step with
  | set | unset => exact h
  | reset => exact absurd rfl hstep
  | new file => exact (s.build_shared file).trans h
  | get file =>
    show (s.getFrom file).2.shared = some n
    rcases s.getFrom_cases file with ⟨m, _, hget⟩ | ⟨hnone, _⟩
    · rw [hget]
      exact h
    · rw [h] at hnone
      cases hnone

/-- Only a request that returns makes a configuration shared. -/
theorem event_shared_none (h : s.shared = none)
    (hget : (s.event step).IsGet → (s.event step).Raises) : (s.event step).after.shared = none := by
  cases step with
  | set | unset => exact h
  | reset => rfl
  | new file => exact (s.build_shared file).trans h
  | get file => exact (shared_of_raises ⟨file, rfl⟩ (hget ⟨file, rfl⟩)).2

/-- Where nothing is shared, a request for the shared configuration builds one. -/
theorem event_builds (h : s.shared = none) (hg : (s.event step).IsGet) :
    (s.event step).Builds ∧ ∀ n, (s.event step).Returns n → n = s.next := by
  obtain ⟨file, rfl⟩ := hg
  rcases s.getFrom_cases file with ⟨m, hsome, _⟩ | ⟨_, hget⟩
  · rw [h] at hsome
    cases hsome
  · refine ⟨⟨file, .inr rfl, ?_, ?_⟩, fun n hr => ?_⟩
    · exact congrArg (fun r => some r.1) hget
    · exact congrArg (fun r => r.2.environment) hget
    · have hanswer : (s.getFrom file).1 = .ok n := Option.some.inj hr
      rw [hget] at hanswer
      exact ((s.build_next file).2 n hanswer).1

/-- Configurations are numbered in the order in which they are built. -/
theorem event_next (hs : s.Sound) (step : Step) :
    (s.event step).after.Sound ∧ s.next ≤ (s.event step).after.next ∧
      ∀ n, (s.event step).Returns n → n < (s.event step).after.next := by
  cases step with
  | set | unset => exact ⟨hs, Nat.le_refl s.next, nofun⟩
  | reset => exact ⟨nofun, Nat.le_refl s.next, nofun⟩
  | new file =>
    obtain ⟨hle, hnew⟩ := s.build_next file
    refine ⟨fun n hn => ?_, hle, fun n hr => (hnew n (Option.some.inj hr)).2⟩
    exact Nat.lt_of_lt_of_le (hs n ((s.build_shared file).symm.trans hn)) hle
  | get file =>
    obtain ⟨hsound, hle, hlt⟩ := getFrom_next hs file
    exact ⟨hsound, hle, fun n hr => hlt n (Option.some.inj hr)⟩

/-- Settings can be made where a configuration was built, and only there. -/
theorem event_settings (h : (s.event step).Builds) :
    (∀ n, (s.event step).Returns n → (s.event step).after.environment.Admits) ∧
      ((s.event step).Raises → ∃ e, (s.event step).after.environment.settings = .error e) := by
  obtain ⟨file, _, hanswer, henv⟩ := h
  rw [henv]
  obtain ⟨hok, herror⟩ := s.build_settings file
  constructor
  · intro n hr
    exact hok n (Option.some.inj (hanswer.symm.trans hr))
  · rintro ⟨e, hr⟩
    exact herror e (Option.some.inj (hanswer.symm.trans hr))

/-- Building a configuration from a file loads the file. -/
theorem event_loads {file : Text} (h : (s.event step).Builds)
    (hstep : step = .new (some file) ∨ step = .get (some file)) :
    (s.event step).after.environment = loader.load s.environment file := by
  obtain ⟨file', hfile', _, henv⟩ := h
  have hsame : file' = some file := by
    rcases hstep with rfl | rfl
    · rcases hfile' with hf | hf
      · cases hf
        rfl
      · cases hf
    · rcases hfile' with hf | hf
      · cases hf
      · cases hf
        rfl
  rw [henv, hsame]
  exact s.build_environment (some file)

theorem event_builds_of_isNew (h : (s.event step).IsNew) : (s.event step).Builds := by
  obtain ⟨file, rfl⟩ := h
  exact ⟨file, .inl rfl, rfl, rfl⟩

/-- Whatever raises has built a configuration that was refused. -/
theorem event_builds_of_raises (h : (s.event step).Raises) : (s.event step).Builds := by
  cases step with
  | set | unset | reset =>
    obtain ⟨_, h⟩ := h
    cases h
  | new file => exact event_builds_of_isNew ⟨file, rfl⟩
  | get file => exact (event_builds (shared_of_raises ⟨file, rfl⟩ h).1 ⟨file, rfl⟩).1

end Event

end State

/-! ## Runs -/

/-- Events that follow each other from one state to another. -/
inductive Leads [Loader] : State → List Event → State → Prop
  | nil (s : State) : Leads s [] s
  | cons {s s' : State} {step : Step} {events : List Event}
      (h : Leads (s.event step).after events s') : Leads s (s.event step :: events) s'

section

variable [loader : Loader]

theorem State.run_leads (s : State) (steps : List Step) : ∃ s', Leads s (s.run steps) s' := by
  induction steps generalizing s with
  | nil => exact ⟨s, .nil s⟩
  | cons step steps ih =>
    obtain ⟨s', h⟩ := ih (s.event step).after
    exact ⟨s', .cons h⟩

namespace Leads

variable {s s' : State} {events : List Event}

theorem exists_of_append {first second : List Event} (h : Leads s (first ++ second) s') :
    ∃ m, Leads s first m ∧ Leads m second s' := by
  induction first generalizing s with
  | nil => exact ⟨s, .nil s, h⟩
  | cons e first ih =>
    cases h with
    | cons h =>
      obtain ⟨m, hfirst, hsecond⟩ := ih h
      exact ⟨m, .cons hfirst, hsecond⟩

/-- Two events, and what led to the second one from the start and from the first one. -/
theorem exists_of_two {past between future : List Event} {e e' : Event}
    (h : Leads s (past ++ e :: (between ++ e' :: future)) s') :
    ∃ a step b step', e = State.event a step ∧ e' = State.event b step' ∧
      Leads s (past ++ e :: between) b ∧ Leads e.after between b := by
  have hsplit : past ++ e :: (between ++ e' :: future) = (past ++ e :: between) ++ e' :: future := by
    simp
  rw [hsplit] at h
  obtain ⟨b, hpast, hrest⟩ := h.exists_of_append
  obtain ⟨a, _, hmid⟩ := hpast.exists_of_append
  cases hmid with
  | cons hmid =>
    cases hrest with
    | cons => exact ⟨a, _, b, _, rfl, rfl, hpast, hmid⟩

/-- An event is a step taken from the state before it. -/
theorem event_of_mem (h : Leads s events s') : ∀ e ∈ events, ∃ m step, e = State.event m step := by
  induction h with
  | nil => exact nofun
  | @cons s s' step events _ ih =>
    intro e he
    rcases List.mem_cons.1 he with rfl | he
    · exact ⟨s, step, rfl⟩
    · exact ih e he

theorem shared_some {n : Nat} (h : Leads s events s') (hs : s.shared = some n)
    (hreset : ∀ e ∈ events, e.step ≠ .reset) : s'.shared = some n := by
  induction h with
  | nil => exact hs
  | cons _ ih =>
    exact ih (State.event_shared_some hs (hreset _ List.mem_cons_self))
      fun e he => hreset e (List.mem_cons_of_mem _ he)

theorem shared_none (h : Leads s events s') (hs : s.shared = none)
    (hget : ∀ e ∈ events, e.IsGet → e.Raises) : s'.shared = none := by
  induction h with
  | nil => exact hs
  | cons _ ih =>
    exact ih (State.event_shared_none hs (hget _ List.mem_cons_self))
      fun e he => hget e (List.mem_cons_of_mem _ he)

/-- Every configuration that was returned has a number below the next one. -/
theorem returns_lt (h : Leads s events s') (hs : s.Sound) :
    s'.Sound ∧ s.next ≤ s'.next ∧ ∀ e ∈ events, ∀ n, e.Returns n → n < s'.next := by
  induction h with
  | nil => exact ⟨hs, Nat.le_refl _, nofun⟩
  | @cons s s' step events _ ih =>
    obtain ⟨hsound, hle, hlt⟩ := State.event_next hs step
    obtain ⟨hsound', hle', hlt'⟩ := ih hsound
    refine ⟨hsound', Nat.le_trans hle hle', fun e he n hr => ?_⟩
    rcases List.mem_cons.1 he with rfl | he
    · exact Nat.lt_of_lt_of_le (hlt n hr) hle'
    · exact hlt' e he n hr

section Two

variable {past between future : List Event} {e e' : Event}

/-- Two requests for the shared configuration return the same one if none forgot it between
them. -/
theorem eq_of_returns {n n' : Nat} (h : Leads s (past ++ e :: (between ++ e' :: future)) s')
    (hget : e.IsGet) (hget' : e'.IsGet) (hn : e.Returns n) (hn' : e'.Returns n')
    (hreset : ∀ b ∈ between, b.step ≠ .reset) : n = n' := by
  obtain ⟨a, step, b, step', rfl, rfl, _, hleads⟩ := h.exists_of_two
  have hshared := hleads.shared_some (State.shared_of_returns hget hn) hreset
  have hstep : step' ≠ .reset := by
    obtain ⟨file, hfile⟩ := hget'
    cases hfile
    nofun
  have hsame := State.event_shared_some hshared hstep
  rw [State.shared_of_returns hget' hn'] at hsame
  exact (Option.some.inj hsame).symm

/-- A request for the shared configuration builds one that was not returned before, if the
last one was forgotten or refused. -/
theorem builds_afresh (h : Leads s (past ++ e :: (between ++ e' :: future)) s') (hs : s.Sound)
    (hlost : e.step = .reset ∨ e.IsGet ∧ e.Raises) (hbetween : ∀ b ∈ between, b.IsGet → b.Raises)
    (hget' : e'.IsGet) :
    e'.Builds ∧ ∀ n, e'.Returns n → ∀ b ∈ past ++ e :: between, ¬b.Returns n := by
  obtain ⟨a, step, b, step', rfl, rfl, hpast, hleads⟩ := h.exists_of_two
  have hafter : (a.event step).after.shared = none := by
    rcases hlost with hreset | ⟨hget, hraises⟩
    · cases hreset
      rfl
    · exact (State.shared_of_raises hget hraises).2
  obtain ⟨hbuilds, hnext⟩ := State.event_builds (hleads.shared_none hafter hbetween) hget'
  refine ⟨hbuilds, fun n hn e he hr => ?_⟩
  -- The new one has the next number, and all before have smaller ones.
  have hlt := (hpast.returns_lt hs).2.2 e he n hr
  rw [hnext n hn] at hlt
  exact Nat.lt_irrefl _ hlt

end Two

end Leads

end

/-- What the events of a run have to do with each other. -/
structure Consistent [Loader] (events : List Event) : Prop where
  /-- No request for a configuration changes a variable that is set, not even if it raises. -/
  keeps : ∀ e ∈ events, e.IsNew ∨ e.IsGet → e.before.environment.Keeps e.after.environment
  /-- Building a configuration from a file loads the file. -/
  loads : ∀ e ∈ events, ∀ file, e.step = .new (some file) ∨ e.step = .get (some file) ∧ e.Builds →
    e.after.environment = Loader.load e.before.environment file
  /-- Until the shared configuration is forgotten it is the same. -/
  same : ∀ past e between e' future n n', events = past ++ e :: (between ++ e' :: future) →
    e.IsGet → e'.IsGet → e.Returns n → e'.Returns n' → (∀ b ∈ between, b.step ≠ .reset) → n = n'
  /-- A request for the shared configuration that raises keeps nothing. -/
  unkept : ∀ e ∈ events, e.IsGet → e.Raises → e.after.shared = none
  /-- Once it is forgotten, or a request for it raised, the next request builds another one
  than any that was returned before. -/
  afresh : ∀ past e between e' future, events = past ++ e :: (between ++ e' :: future) →
    e.step = .reset ∨ e.IsGet ∧ e.Raises → (∀ b ∈ between, b.IsGet → b.Raises) → e'.IsGet →
    e'.Builds ∧ ∀ n, e'.Returns n → ∀ b ∈ past ++ e :: between, ¬b.Returns n
  /-- A configuration that was built gives settings of a search. -/
  admits : ∀ e ∈ events, e.IsNew ∨ e.IsGet ∧ e.Builds → ∀ n, e.Returns n →
    e.after.environment.Admits
  /-- Where a configuration is refused, the settings of a search are refused too. -/
  refuses : ∀ e ∈ events, e.Raises → ∃ error, e.after.environment.settings = .error error

/-- Runs are consistent if loading a file sets just the variables that are missing, whatever the
environment at the start and whatever the steps. -/
theorem run_consistent [loader : Loader] (hload : loader.SetsMissing) (env : Environment)
    (steps : List Step) : Consistent ((State.mk env none 0).run steps) := by
  obtain ⟨s', hrun⟩ := State.run_leads ⟨env, none, 0⟩ steps
  have hevent := hrun.event_of_mem
  refine ⟨?_, ?_, ?_, ?_, ?_, ?_, ?_⟩
  · intro e he hcall
    obtain ⟨m, step, rfl⟩ := hevent e he
    exact State.event_keeps hload hcall
  · intro e he file hstep
    obtain ⟨m, step, rfl⟩ := hevent e he
    rcases hstep with hnew | ⟨hget, hbuilds⟩
    · exact State.event_loads (State.event_builds_of_isNew ⟨_, hnew⟩) (.inl hnew)
    · exact State.event_loads hbuilds (.inr hget)
  · intro past e between e' future n n' hevents
    rw [hevents] at hrun
    exact hrun.eq_of_returns
  · intro e he hget hraises
    obtain ⟨m, step, rfl⟩ := hevent e he
    exact (State.shared_of_raises hget hraises).2
  · intro past e between e' future hevents
    rw [hevents] at hrun
    exact hrun.builds_afresh nofun
  · intro e he hbuilds n hn
    obtain ⟨m, step, rfl⟩ := hevent e he
    rcases hbuilds with hnew | ⟨_, hbuilds⟩
    · exact (State.event_settings (State.event_builds_of_isNew hnew)).1 n hn
    · exact (State.event_settings hbuilds).1 n hn
  · intro e he hraises
    obtain ⟨m, step, rfl⟩ := hevent e he
    exact (State.event_settings (State.event_builds_of_raises hraises)).2 hraises

open SettingsFile

theorem run_consistent_refused_twice :
    let events := (State.mk .empty none 0).run
      [.new (some (Text.of "LISPREF_PROGRESS_EVERY=0 # never")), .get none,
        .set (Text.of "LISPREF_PROGRESS_EVERY") (Text.of "3"), .get none, .reset, .get none]
    Consistent events ∧ events.map Event.answer =
      [some (.error (.progressTooSmall 0)), some (.error (.progressTooSmall 0)), none,
        some (.ok 0), none, some (.ok 1)] :=
  ⟨run_consistent setsMissing_loader _ _, by decide +kernel⟩

end Config

end LispXref
