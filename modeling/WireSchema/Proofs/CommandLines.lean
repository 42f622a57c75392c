import WireSchema.CommandLine.Arguments
import WireSchema.Proofs.Outcomes

/-! # What command lines say

A command line that is read as a run is written in a small grammar: models, and options that are
spelled in a few ways.  The grammar is given here without the reader.

* `Spells` — the ways to write an option with its value.
* `AsksFor` — the models and the options of a command line, each in their order.
* `exists_asksFor` — what is read from a command line is what it asks for, and no option is given
  twice.
-/

namespace WireSchema.CommandLine

/-! ## The grammar -/

/-- A model: a dash alone, or what does not begin with a dash. -/
def IsModel (argument : String) : Prop :=
  argument = "-" ∨ argument.toList.head? ≠ some '-'

/-- The ways to write an option with its value. -/
inductive Spells : Setting → String → List String → Prop where
  | long (setting : Setting) {value : String} : IsModel value →
      Spells setting value ["--" ++ setting.name, value]
  | longJoined (setting : Setting) (value : String) :
      Spells setting value ["--" ++ setting.name ++ "=" ++ value]
  | short {value : String} : IsModel value → Spells .out value ["-o", value]
  | shortJoined {value : String} : value ≠ "" → value.toList.head? ≠ some '=' →
      Spells .out value ["-o" ++ value]
  | shortEquals (value : String) : Spells .out value ["-o=" ++ value]

/-- The models and the options that arguments write, in their order. -/
inductive AsksFor : List String → List String → List (Setting × String) → Prop where
  | nothing : AsksFor [] [] []
  | model {path : String} {arguments models : List String} {given : List (Setting × String)} :
      IsModel path → AsksFor arguments models given →
      AsksFor (path :: arguments) (path :: models) given
  | option {setting : Setting} {value : String} {used arguments models : List String}
      {given : List (Setting × String)} : Spells setting value used →
      AsksFor arguments models given →
      AsksFor (used ++ arguments) models ((setting, value) :: given)
  /-- After two dashes, everything is a model. -/
  | onlyModels (models : List String) : AsksFor ("--" :: models) models []

/-! ## Single arguments -/

/-- Put together again, with the sign between them, the two halves are the whole text. -/
theorem splitAtEquals_join (cs : List Char) :
    (splitAtEquals cs).1 ++ (splitAtEquals cs).2.elim [] ('=' :: ·) = cs := by
  induction cs with
  | nil => rfl
  | cons c cs inductionHypothesis =>
    by_cases sign : c = '='
    · simp [splitAtEquals, sign]
    · simp [splitAtEquals, sign, inductionHypothesis]

theorem Setting.name_of_ofName? {name : String} {setting : Setting}
    (found : ofName? name = some setting) : setting.name = name := by
  simpa using List.find?_some found

theorem longArgument_eq_setting {argument : String} {cs : List Char} {setting : Setting}
    {value : Option String} (read : longArgument argument cs = .setting setting value) :
    cs = setting.name.toList ++ value.elim [] fun text => '=' :: text.toList := by
  have whole := splitAtEquals_join cs
  unfold longArgument at read
  cases split : splitAtEquals cs with
  | mk name after =>
    simp only [split] at read whole
    split at read
    · split at read
      · cases read
      · split at read <;> cases read
    · cases found : Setting.ofName? (String.ofList name) with
      | none => simp [found] at read
      | some other =>
        obtain ⟨rfl, rfl⟩ := by simpa [found] using read
        rw [Setting.name_of_ofName? found, ← whole]
        cases after <;> simp

theorem shortArgument_eq_bare {argument : String} {cs : List Char} {setting : Setting}
    (read : shortArgument argument cs = .setting setting none) : setting = .out ∧ cs = ['o'] := by
  unfold shortArgument at read
  split at read <;> simp_all

theorem shortArgument_eq_joined {argument text : String} {cs : List Char} {setting : Setting}
    (read : shortArgument argument cs = .setting setting (some text)) :
    setting = .out ∧ (cs = 'o' :: '=' :: text.toList ∨
      cs = 'o' :: text.toList ∧ text ≠ "" ∧ text.toList.head? ≠ some '=') := by
  unfold shortArgument at read
  split at read
  case h_4 =>
    obtain ⟨rfl, rfl⟩ := by simpa using read
    simp
  case h_5 rest nonempty unsigned =>
    obtain ⟨rfl, rfl⟩ := by simpa using read
    -- the letter alone, and the letter with a sign, are cases of their own
    cases rest with
    | nil => simp at nonempty
    | cons c rest =>
      refine ⟨rfl, .inr ⟨by simp, by simp [String.ext_iff], ?_⟩⟩
      simpa using fun sign => unsigned rest (by rw [sign])
  all_goals cases read

theorem longArgument_decides (argument : String) (cs : List Char) :
    (∀ path, longArgument argument cs ≠ .model path) ∧ longArgument argument cs ≠ .onlyModels := by
  grind [longArgument]

theorem shortArgument_decides (argument : String) (cs : List Char) :
    (∀ path, shortArgument argument cs ≠ .model path) ∧
      shortArgument argument cs ≠ .onlyModels := by
  unfold shortArgument
  split <;> simp

theorem read_eq_model {argument path : String} (read : Argument.read argument = .model path) :
    path = argument ∧ IsModel argument := by
  unfold Argument.read at read
  split at read
  case h_1 => cases read
  case h_2 => exact absurd read ((longArgument_decides _ _).1 path)
  case h_3 _ text =>
    cases read
    exact ⟨rfl, .inl (by simp [String.ext_iff, text])⟩
  case h_4 => exact absurd read ((shortArgument_decides _ _).1 path)
  case h_5 _ _ _ _ plain =>
    cases read
    refine ⟨rfl, .inr fun dash => ?_⟩
    obtain ⟨cs, text⟩ := List.head?_eq_some_iff.mp dash
    exact plain cs text

theorem isModel_of_isValue {argument : String} (value : isValue argument) : IsModel argument := by
  unfold isValue at value
  split at value
  case h_1 path isModel => exact (read_eq_model isModel).2
  case h_2 => cases value

theorem read_eq_onlyModels {argument : String} (read : Argument.read argument = .onlyModels) :
    argument = "--" := by
  unfold Argument.read at read
  split at read
  case h_1 _ text => simp [String.ext_iff, text]
  case h_2 => exact absurd read (longArgument_decides _ _).2
  case h_4 => exact absurd read (shortArgument_decides _ _).2
  all_goals cases read

theorem read_eq_bare {argument : String} {setting : Setting}
    (read : Argument.read argument = .setting setting none) :
    argument = "--" ++ setting.name ∨ setting = .out ∧ argument = "-o" := by
  unfold Argument.read at read
  split at read
  case h_2 cs text =>
    exact .inl (by simp [String.ext_iff, text, longArgument_eq_setting read])
  case h_4 cs _ _ text =>
    obtain ⟨rfl, rfl⟩ := shortArgument_eq_bare read
    exact .inr ⟨rfl, by simp [String.ext_iff, text]⟩
  all_goals cases read

theorem read_eq_joined {argument text : String} {setting : Setting}
    (read : Argument.read argument = .setting setting (some text)) :
    Spells setting text [argument] := by
  unfold Argument.read at read
  split at read
  case h_2 cs written =>
    have long : argument = "--" ++ setting.name ++ "=" ++ text := by
      simp [String.ext_iff, written, longArgument_eq_setting read]
    exact long ▸ .longJoined setting text
  case h_4 cs _ _ written =>
    obtain ⟨rfl, rfl | ⟨rfl, nonempty, unsigned⟩⟩ := shortArgument_eq_joined read
    · have short : argument = "-o=" ++ text := by simp [String.ext_iff, written]
      exact short ▸ .shortEquals text
    · have short : argument = "-o" ++ text := by simp [String.ext_iff, written]
      exact short ▸ .shortJoined nonempty unsigned
  all_goals cases read

/-! ## Whole command lines -/

theorem addModel_eq_ok {start next : Invocation} {path : String}
    (added : addModel start path = .ok next) :
    next = { start with models := start.models ++ [path] } := by
  unfold addModel at added
  split at added <;> cases added
  rfl

theorem addValue_eq_ok {start next : Invocation} {setting : Setting} {value : String}
    (added : addValue start setting value = .ok next) :
    start.value? setting = none ∧ next = start.withValue setting value := by
  unfold addValue at added
  by_cases repeated : (start.value? setting).isSome
  · simp [repeated] at added
  · split at added
    · contradiction
    · split at added <;> cases added
      exact ⟨by simpa using repeated, rfl⟩

theorem value?_withValue (start : Invocation) (setting other : Setting) (value : String) :
    (start.withValue setting value).value? other =
      if other = setting then some value else start.value? other := by
  cases setting <;> cases other <;> rfl

theorem models_withValue (start : Invocation) (setting : Setting) (value : String) :
    (start.withValue setting value).models = start.models := by
  cases setting <;> rfl

theorem finish_eq_ok {start invocation : Invocation}
    (finished : finish start = .ok (.generate invocation)) : invocation = start := by
  unfold finish at finished
  split at finished <;> cases finished
  rfl

/-- An invocation holds what was known before some arguments, and then what these ask for. -/
structure Collects (start : Invocation) (models : List String) (given : List (Setting × String))
    (invocation : Invocation) : Prop where
  models : invocation.models = start.models ++ models
  value : ∀ setting, invocation.value? setting = (start.value? setting).or (given.lookup setting)
  once : (given.map Prod.fst).Nodup
  new : ∀ setting ∈ given.map Prod.fst, start.value? setting = none

namespace Collects

variable {start next invocation : Invocation} {models : List String}
  {given : List (Setting × String)}

theorem nothing (invocation : Invocation) : Collects invocation [] [] invocation where
  models := by simp
  value := by simp
  once := by simp
  new := by simp

theorem model {path : String} (added : addModel start path = .ok next)
    (rest : Collects next models given invocation) :
    Collects start (path :: models) given invocation := by
  obtain rfl := addModel_eq_ok added
  exact { rest with models := by simp [rest.models] }

theorem option {setting : Setting} {value : String}
    (added : addValue start setting value = .ok next)
    (rest : Collects next models given invocation) :
    Collects start models ((setting, value) :: given) invocation := by
  obtain ⟨free, rfl⟩ := addValue_eq_ok added
  -- what follows does not give the option again, since it has a value by now
  have other : setting ∉ given.map Prod.fst := fun again => by
    simpa [value?_withValue] using rest.new setting again
  constructor
  · rw [rest.models, models_withValue]
  · intro option
    rw [rest.value, value?_withValue]
    by_cases same : option = setting
    · simp [same, free]
    · simp [same, List.lookup_cons, beq_false_of_ne same]
  · exact List.nodup_cons.mpr ⟨other, rest.once⟩
  · intro option said
    obtain rfl | later := List.mem_cons.mp said
    · exact free
    · have unset := rest.new option later
      rw [value?_withValue] at unset
      split at unset
      · cases unset
      · exact unset

end Collects

theorem collects_of_readModels {start invocation : Invocation} {arguments : List String}
    (read : readModels start arguments = .ok (.generate invocation)) :
    Collects start arguments [] invocation := by
  induction arguments generalizing start with
  | nil =>
    obtain rfl := finish_eq_ok read
    exact .nothing invocation
  | cons path paths inductionHypothesis =>
    obtain ⟨next, added, read⟩ := bind_eq_ok.mp read
    exact .model added (inductionHypothesis read)

/-- What is read from arguments is what they ask for. -/
theorem exists_asksFor {start invocation : Invocation} {arguments : List String}
    (read : readArguments start arguments = .ok (.generate invocation)) :
    ∃ models given, AsksFor arguments models given ∧ Collects start models given invocation := by
  -- along the reader, which takes one argument at a time, or two for an option and its value
  fun_induction readArguments start arguments with
  | case1 start =>
    obtain rfl := finish_eq_ok read
    exact ⟨[], [], .nothing, .nothing invocation⟩
  | case2 | case3 | case4 => cases read
  | case5 start argument arguments isDashes =>
    obtain rfl := read_eq_onlyModels isDashes
    exact ⟨arguments, [], .onlyModels arguments, collects_of_readModels read⟩
  | case6 start argument arguments path isModel inductionHypothesis =>
    obtain ⟨rfl, plain⟩ := read_eq_model isModel
    obtain ⟨next, added, read⟩ := bind_eq_ok.mp read
    obtain ⟨models, given, asks, collects⟩ := inductionHypothesis next read
    exact ⟨path :: models, given, .model plain asks, collects.model added⟩
  | case7 start argument arguments setting value isJoined inductionHypothesis =>
    obtain ⟨next, added, read⟩ := bind_eq_ok.mp read
    obtain ⟨models, given, asks, collects⟩ := inductionHypothesis next read
    exact ⟨models, (setting, value) :: given, .option (read_eq_joined isJoined) asks,
      collects.option added⟩
  | case8 => cases read
  | case9 start argument setting isBare value arguments isValue inductionHypothesis =>
    obtain ⟨next, added, read⟩ := bind_eq_ok.mp read
    obtain ⟨models, given, asks, collects⟩ := inductionHypothesis next read
    refine ⟨models, (setting, value) :: given, ?_, collects.option added⟩
    have plain := isModel_of_isValue isValue
    obtain rfl | ⟨rfl, rfl⟩ := read_eq_bare isBare
    · exact .option (.long setting plain) asks
    · exact .option (.short plain) asks
  | case10 => cases read

end WireSchema.CommandLine
