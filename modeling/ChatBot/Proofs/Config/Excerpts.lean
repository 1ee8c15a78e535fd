import ChatBot.Config.Loading
import ChatBot.Proofs.Json.Records

/-!
# Records of configurations from which fields are missing

Fields may be taken out of the record of a configuration at each of its three levels, and fields
that nobody knows may be put in.

* `Config.excerpt` is the configuration that is left: a field that was taken out has its default,
  and a record that was taken out has the defaults of all its fields.
* `Config.Spells` are the records that say so, in whatever order.
* `Config.ofJson?_of_spells`: each of these records is read as the configuration that is left.
-/

namespace ChatBot

section

variable {α : Type} {default value : α} {read : Json → Option α} {j : Json} {n : Nat}

/-- What is missing from a record stands for its default. -/
theorem Json.fieldOr_ite (h : read j = some value) (kept : Bool) :
    Json.fieldOr default read (if kept then some j else none) =
      some (if kept then value else default) := by
  cases kept
  · rfl
  · exact h

theorem Json.text?_ofText (s : String) : (Json.ofText s).text? = some s := rfl

theorem Json.char?_ofText (c : Char) : (Json.ofText c.toString).char? = some c := by
  rw [Json.char?, Json.text?_ofText, Option.map_some, Char.toString, String.toList_singleton]

/-- A span that fits into a word is written in full. -/
theorem Json.natural?_ofMillis (hn : n < Json.wordSize) : (Json.ofMillis n).natural? = some n := by
  rw [Json.ofMillis, Nat.mod_eq_of_lt hn, Json.natural?_ofNat hn]

end

/-- Which fields are left of the record of a configuration, at each of its levels. -/
structure Config.Kept where
  /-- The fields of the configuration itself. -/
  config : String → Bool
  /-- The fields of its limits and marks for evaluations. -/
  eval : String → Bool
  /-- The fields of the marks. -/
  marks : String → Bool

/-- Everything is left. -/
def Config.Kept.all : Config.Kept where
  config _ := true
  eval _ := true
  marks _ := true

/-! ### Marks -/

namespace Marks

variable {m : Marks} {keeps : String → Bool} {j : Json}

/-- The marks that are left, and the default of each other one. -/
def excerpt (m : Marks) (keeps : String → Bool) : Marks :=
  let default : Marks := {}
  { suppress := if keeps "suppress" then m.suppress else default.suppress
    leftBracket := if keeps "left_bracket" then m.leftBracket else default.leftBracket
    rightBracket := if keeps "right_bracket" then m.rightBracket else default.rightBracket
    action := if keeps "action" then m.action else default.action
    assign := if keeps "assign" then m.assign else default.assign
    escape := if keeps "escape" then m.escape else default.escape }

/-- The fields of the record of the marks. -/
def fields (m : Marks) : List (String × Json) :=
  fieldNames.zip (m.toList.map fun c => Json.ofText c.toString)

/-- The value is a record of the marks that are left, and of unknown fields. -/
def Spells (m : Marks) (keeps : String → Bool) (j : Json) : Prop :=
  ∃ members, j = .object members ∧ Json.IsExcerpt m.fields keeps members

theorem spells_toJson (m : Marks) : m.Spells (fun _ => true) m.toJson :=
  ⟨_, rfl, Json.isExcerpt_self m.fields⟩

theorem isLegible_toJson (m : Marks) : m.toJson.IsLegible := by
  refine Json.IsLegible.ofMembers fun f hf => ?_
  obtain ⟨c, -, hc⟩ := List.mem_map.1 (List.of_mem_zip hf).2
  rw [← hc]
  exact .ofText _

/-- A record of marks is read as the marks that are left. -/
theorem ofJson?_of_spells (h : m.Spells keeps j) : ofJson? j = some (m.excerpt keeps) := by
  obtain ⟨members, rfl, hex⟩ := h
  rw [ofJson?, Json.fields?_of_isExcerpt fieldNames rfl (by decide) hex]
  simp only [fields, fieldNames, toList, List.map_cons, List.map_nil, List.zip_cons_cons,
    List.zip_nil_left, Option.bind_eq_bind, Option.bind_some,
    Json.fieldOr_ite (Json.char?_ofText _)]
  rfl

end Marks

/-! ### Limits and marks -/

namespace EvalConfig

variable {c : EvalConfig} {kept : Config.Kept} {j : Json}

/-- The limits and marks that are left, and the default of each other field. -/
def excerpt (c : EvalConfig) (kept : Config.Kept) : EvalConfig :=
  let default : EvalConfig := {}
  { timeLimit := if kept.eval "time_limit" then c.timeLimit else default.timeLimit
    maxDepth := if kept.eval "max_depth" then c.maxDepth else default.maxDepth
    marks := if kept.eval "syntax" then c.marks.excerpt kept.marks else default.marks }

/-- The fields of the record of the limits and marks, where `marks` is the record of the marks. -/
def fields (c : EvalConfig) (marks : Json) : List (String × Json) :=
  fieldNames.zip [.ofMillis c.timeLimit, .ofNat c.maxDepth, marks]

/-- The value is a record of the limits and marks that are left, and of unknown fields. -/
def Spells (c : EvalConfig) (kept : Config.Kept) (j : Json) : Prop :=
  ∃ marks members, c.marks.Spells kept.marks marks ∧ j = .object members ∧
    Json.IsExcerpt (c.fields marks) kept.eval members

theorem spells_toJson (c : EvalConfig) : c.Spells .all c.toJson :=
  ⟨_, _, c.marks.spells_toJson, rfl, Json.isExcerpt_self (c.fields c.marks.toJson)⟩

theorem isLegible_toJson (c : EvalConfig) : c.toJson.IsLegible := by
  refine Json.IsLegible.ofMembers fun f hf => ?_
  have hmem := (List.of_mem_zip hf).2
  simp only [List.mem_cons, List.not_mem_nil, or_false] at hmem
  rcases hmem with hj | hj | hj <;> rw [hj]
  · exact .ofNat _
  · exact .ofNat _
  · exact c.marks.isLegible_toJson

/-- A record of limits and marks is read as those that are left. -/
theorem ofJson?_of_spells (ht : c.timeLimit < Json.wordSize) (hd : c.maxDepth < Json.wordSize)
    (h : c.Spells kept j) : ofJson? j = some (c.excerpt kept) := by
  obtain ⟨marks, members, hmarks, rfl, hex⟩ := h
  rw [ofJson?, Json.fields?_of_isExcerpt fieldNames rfl (by decide) hex]
  simp only [fields, fieldNames, List.map_cons, List.map_nil, List.zip_cons_cons,
    List.zip_nil_left, Option.bind_eq_bind, Option.bind_some,
    Json.fieldOr_ite (Json.natural?_ofMillis ht), Json.fieldOr_ite (Json.natural?_ofNat hd),
    Json.fieldOr_ite (Marks.ofJson?_of_spells hmarks)]
  rfl

end EvalConfig

/-! ### Configurations -/

namespace Config

variable {c : Config} {kept : Kept} {j : Json}

/-- The choices that are left, and the default of each other one. -/
def excerpt (c : Config) (kept : Kept) : Config :=
  let default : Config := {}
  { nick := if kept.config "nick" then c.nick else default.nick
    opening := if kept.config "command_prefix" then c.opening else default.opening
    maxTasks := if kept.config "max_tasks" then c.maxTasks else default.maxTasks
    shutdownTimeout :=
      if kept.config "shutdown_timeout" then c.shutdownTimeout else default.shutdownTimeout
    tickInterval := if kept.config "tick_interval" then c.tickInterval else default.tickInterval
    eval := if kept.config "eval" then c.eval.excerpt kept else default.eval }

/-- The fields of the record of a configuration, where `eval` is the record of its limits and
marks. -/
def fields (c : Config) (eval : Json) : List (String × Json) :=
  fieldNames.zip
    [.ofText c.nick, .ofText c.opening, .ofNat c.maxTasks, .ofMillis c.shutdownTimeout,
      .ofMillis c.tickInterval, eval]

/-- The value is a record of the choices that are left, and of unknown fields. -/
def Spells (c : Config) (kept : Kept) (j : Json) : Prop :=
  ∃ eval members, c.eval.Spells kept eval ∧ j = .object members ∧
    Json.IsExcerpt (c.fields eval) kept.config members

/-- The limits of the configuration and its times, in milliseconds, fit into 64-bit words. -/
structure IsSized (c : Config) : Prop where
  maxTasks : c.maxTasks < Json.wordSize
  maxDepth : c.eval.maxDepth < Json.wordSize
  shutdownTimeout : c.shutdownTimeout < Json.wordSize
  tickInterval : c.tickInterval < Json.wordSize
  timeLimit : c.eval.timeLimit < Json.wordSize

theorem spells_toJson (c : Config) : c.Spells .all c.toJson :=
  ⟨_, _, c.eval.spells_toJson, rfl, Json.isExcerpt_self (c.fields c.eval.toJson)⟩

theorem excerpt_all (c : Config) : c.excerpt .all = c := rfl

theorem isLegible_of_mem_fields {eval : Json} {f : String × Json} (he : eval.IsLegible)
    (hf : f ∈ c.fields eval) : f.2.IsLegible := by
  have hmem := (List.of_mem_zip hf).2
  simp only [List.mem_cons, List.not_mem_nil, or_false] at hmem
  rcases hmem with hj | hj | hj | hj | hj | hj <;> rw [hj]
  · exact .ofText _
  · exact .ofText _
  · exact .ofNat _
  · exact .ofNat _
  · exact .ofNat _
  · exact he

theorem isLegible_toJson (c : Config) : c.toJson.IsLegible :=
  .ofMembers fun _ hf => isLegible_of_mem_fields c.eval.isLegible_toJson hf

/-- A record of a configuration is read as the configuration that is left. -/
theorem ofJson?_of_spells (hc : c.IsSized) (h : c.Spells kept j) :
    ofJson? j = some (c.excerpt kept) := by
  obtain ⟨eval, members, heval, rfl, hex⟩ := h
  rw [ofJson?, Json.fields?_of_isExcerpt fieldNames rfl (by decide) hex]
  simp only [fields, fieldNames, List.map_cons, List.map_nil, List.zip_cons_cons,
    List.zip_nil_left, Option.bind_eq_bind, Option.bind_some,
    Json.fieldOr_ite (Json.text?_ofText _), Json.fieldOr_ite (Json.natural?_ofNat hc.maxTasks),
    Json.fieldOr_ite (Json.natural?_ofMillis hc.shutdownTimeout),
    Json.fieldOr_ite (Json.natural?_ofMillis hc.tickInterval),
    Json.fieldOr_ite (EvalConfig.ofJson?_of_spells hc.timeLimit hc.maxDepth heval)]
  rfl

end Config

end ChatBot
