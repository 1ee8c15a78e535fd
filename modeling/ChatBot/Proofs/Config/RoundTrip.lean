import ChatBot.Bot.Lifecycle
import ChatBot.Proofs.Config.Excerpts

/-!
# What is saved is loaded again

* `Config.isSized_of_ofText`: what a text spells fits into words, so that nothing of it is lost
  when it is saved.
* `Config.round_trip`: a configuration of that size is loaded as it was saved; of a record from
  which fields were taken, or into which unknown ones were put, the configuration that is left is
  loaded; and what was loaded once is loaded again.
-/

namespace ChatBot

section

variable {α : Type} {default value : α} {read : Json → Option α} {field : Option Json}

/-- A field has its default, or what can be read where it stands. -/
theorem Json.fieldOr_eq_some (h : Json.fieldOr default read field = some value) :
    value = default ∨ ∃ j, read j = some value := by
  cases field with
  | none => exact .inl (Option.some.inj h).symm
  | some j => exact .inr ⟨j, h⟩

theorem Json.lt_of_natural? {j : Json} {n : Nat} (h : j.natural? = some n) :
    n < Json.wordSize := by
  cases j with
  | number digits => exact of_decide_eq_true (Option.filter_eq_some_iff.1 h).2
  | _ => cases h

/-- A number in a field fits into a word, if its default does. -/
theorem Json.lt_of_fieldOr {default n : Nat}
    (h : Json.fieldOr default Json.natural? field = some n) (hd : default < Json.wordSize) :
    n < Json.wordSize := by
  rcases Json.fieldOr_eq_some h with rfl | ⟨j, hj⟩
  · exact hd
  · exact Json.lt_of_natural? hj

end

theorem EvalConfig.lt_of_ofJson? {c : EvalConfig} {j : Json} (h : ofJson? j = some c) :
    c.timeLimit < Json.wordSize ∧ c.maxDepth < Json.wordSize := by
  rw [ofJson?] at h
  obtain ⟨fields, -, h⟩ := Option.bind_eq_some_iff.1 h
  split at h
  · simp only [Option.bind_eq_bind, Option.bind_eq_some_iff] at h
    obtain ⟨timeLimit, htimeLimit, maxDepth, hmaxDepth, marks, -, heq⟩ := h
    cases heq
    exact ⟨Json.lt_of_fieldOr htimeLimit (by decide), Json.lt_of_fieldOr hmaxDepth (by decide)⟩
  · cases h

namespace Config

variable {c : Config} {kept : Kept} {j : Json} {text : String}

theorem isSized_of_ofJson? (h : ofJson? j = some c) : c.IsSized := by
  rw [ofJson?] at h
  obtain ⟨fields, -, h⟩ := Option.bind_eq_some_iff.1 h
  split at h
  · simp only [Option.bind_eq_bind, Option.bind_eq_some_iff] at h
    obtain ⟨nick, -, opening, -, maxTasks, hmaxTasks, shutdownTimeout, hshutdownTimeout,
      tickInterval, htickInterval, eval, heval, heq⟩ := h
    cases heq
    have hlimits : eval.timeLimit < Json.wordSize ∧ eval.maxDepth < Json.wordSize := by
      rcases Json.fieldOr_eq_some heval with rfl | ⟨j, hj⟩
      · decide
      · exact EvalConfig.lt_of_ofJson? hj
    exact ⟨Json.lt_of_fieldOr hmaxTasks (by decide), hlimits.2,
      Json.lt_of_fieldOr hshutdownTimeout (by decide),
      Json.lt_of_fieldOr htickInterval (by decide), hlimits.1⟩
  · cases h

theorem ofText_eq_ok : ofText text = .ok c ↔ (Json.read? text).bind ofJson? = some c := by
  rw [ofText]
  split
  · rename_i config heq
    rw [heq]
    exact ⟨fun h => by cases h; rfl, fun h => by cases h; rfl⟩
  · rename_i heq
    rw [heq]
    exact ⟨nofun, nofun⟩

/-- What a text spells fits into words. -/
theorem isSized_of_ofText (h : ofText text = .ok c) : c.IsSized := by
  obtain ⟨j, -, hj⟩ := Option.bind_eq_some_iff.1 (ofText_eq_ok.1 h)
  exact isSized_of_ofJson? hj

/-- A text is loaded as the configuration that is left in it. -/
theorem ofText_of_spells (hc : c.IsSized) (h : c.Spells kept j) (ht : Json.read? text = some j) :
    ofText text = .ok (c.excerpt kept) := by
  rw [ofText_eq_ok, ht, Option.bind_some]
  exact ofJson?_of_spells hc h

/-- A configuration is loaded as it was saved. -/
theorem ofText_render (hc : c.IsSized) : ofText c.toJson.render = .ok c := by
  have hread := Json.read?_render c.isLegible_toJson
  rw [ofText_of_spells hc c.spells_toJson hread, excerpt_all]

/-- **What is saved is loaded again.**  A configuration whose limits and times fit into words is
loaded as it was saved, and is in order, and makes a bot, if and only if it did before.  If fields
are taken from its record, at any level, and unknown fields put into it, every text of that record
is loaded as the configuration that is left, and there is such a text if the unknown values can be
told from theirs.  And whatever a text was loaded as can be saved and loaded without loss. -/
theorem round_trip :
    (∀ c : Config, c.IsSized → ∃ loaded, ofText c.toJson.render = .ok loaded ∧ loaded = c ∧
      (loaded.validate = .ok () ↔ c.validate = .ok ()) ∧
      ((∃ b, Bot.ofConfig loaded = .ok b) ↔ ∃ b, Bot.ofConfig c = .ok b)) ∧
    (∀ (c : Config) (kept : Kept) (j : Json), c.IsSized → c.Spells kept j →
      (∀ text, Json.read? text = some j → ofText text = .ok (c.excerpt kept)) ∧
      (j.IsLegible → ofText j.render = .ok (c.excerpt kept))) ∧
    ∀ (text : String) (c : Config), ofText text = .ok c →
      c.IsSized ∧ ofText c.toJson.render = .ok c := by
  refine ⟨fun c hc => ?_, fun c kept j hc hj => ⟨fun text ht => ?_, fun hlegible => ?_⟩,
    fun text c h => ?_⟩
  · exact ⟨c, ofText_render hc, rfl, .rfl, .rfl⟩
  · exact ofText_of_spells hc hj ht
  · exact ofText_of_spells hc hj (Json.read?_render hlegible)
  · have hc := isSized_of_ofText h
    exact ⟨hc, ofText_render hc⟩

namespace Sample

/-- Four fields are not the default ones. -/
def chosen : Config where
  nick := "bot"
  tickInterval := 250
  eval := { timeLimit := 20, marks := { suppress := '|' } }

/-- The name is taken out, and all of the limits and marks but one. -/
def partly : Kept where
  config name := name != "nick"
  eval name := name == "syntax"
  marks name := name == "suppress"

def marks : Json := .ofMembers [("suppress", .ofText "|")]

def eval : Json := .ofMembers [("syntax", marks)]

/-- What is left of the record, after a field that nobody knows. -/
def record : Json :=
  .ofMembers (("version", .ofNat 2) :: (chosen.fields eval).filter fun f => partly.config f.1)

theorem spells_record : chosen.Spells partly record := by
  have hmarks : chosen.eval.marks.Spells partly.marks marks :=
    ⟨_, rfl, [], by rfl, nofun⟩
  have heval : chosen.eval.Spells partly eval := ⟨marks, _, hmarks, rfl, [], by rfl, nofun⟩
  refine ⟨eval, _, heval, rfl, [(some "version", .ofNat 2)], ?_, ?_⟩
  · exact (List.perm_append_singleton _ _).symm
  · rintro m hm
    rw [List.mem_singleton.1 hm]
    exact ⟨"version", rfl, by decide⟩

theorem isLegible_record : record.IsLegible := by
  have hmarks : marks.IsLegible := .ofMembers fun f hf => by
    rw [List.mem_singleton.1 hf]
    exact .ofText "|"
  have heval : eval.IsLegible := .ofMembers fun f hf => by
    rw [List.mem_singleton.1 hf]
    exact hmarks
  refine .ofMembers fun f hf => ?_
  rcases List.mem_cons.1 hf with rfl | hf
  · exact .ofNat 2
  · exact isLegible_of_mem_fields heval (List.mem_filter.1 hf).1

end Sample

theorem round_trip_sample :
    ofText Sample.chosen.toJson.render = .ok Sample.chosen ∧
      ofText Sample.record.render =
        .ok { Sample.chosen with nick := "jante", eval := { marks := { suppress := '|' } } } := by
  have hsized : Sample.chosen.IsSized := by constructor <;> decide
  obtain ⟨loaded, hloaded, rfl, -⟩ := round_trip.1 Sample.chosen hsized
  exact ⟨hloaded,
    (round_trip.2.1 _ _ _ hsized Sample.spells_record).2 Sample.isLegible_record⟩

end Config

end ChatBot
