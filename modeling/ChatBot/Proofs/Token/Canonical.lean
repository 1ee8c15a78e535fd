import ChatBot.Proofs.Text.Whitespace
import ChatBot.Token.Lexer

/-!
# What reading tokens can give

Reading is a map from texts onto the canonical rows of tokens.  Writing every mark as its character
and every letter behind an escape is a section of it.

* `Canonical`: the rows of tokens that some text stands for.
* `unlex`: the text that stands for a row.
* `lex_range`: reading fails on no text or on all of them; it gives canonical rows only, and
  `unlex` finds a text for each of these.

Between texts and tokens stand rows of glyphs.  `Glyph.ofChars_render` is the step from a text to
its glyphs, where escapes and the collapsing of whitespace matter.  `Follows` is `Canonical` as
`group` sees it, with the token before in hand; `follows_group` and `Follows.group_glyphs` are the
step from glyphs to tokens and back.
-/

namespace ChatBot

namespace Marks

/-- The six marks differ from each other and none of them is whitespace. -/
structure Consistent (m : Marks) : Prop where
  distinct : m.toList.Nodup
  visible : ∀ c ∈ m.toList, Text.isSpace c = false

theorem isConsistent_iff {m : Marks} : m.isConsistent = true ↔ m.Consistent := by
  simp only [isConsistent, Bool.and_eq_true, List.all_eq_true, Bool.not_eq_true', decide_eq_true_eq]
  exact ⟨fun ⟨hv, hd⟩ => ⟨hd, hv⟩, fun ⟨hd, hv⟩ => ⟨hv, hd⟩⟩

instance (m : Marks) : Decidable m.Consistent := decidable_of_iff _ isConsistent_iff

/-- The character of a mark. -/
def char? (m : Marks) : Token → Option Char
  | .identifier _ => none
  | .leftBracket => some m.leftBracket
  | .rightBracket => some m.rightBracket
  | .action => some m.action
  | .assign => some m.assign
  | .suppress => some m.suppress

/-- `cs` with every character behind an escape. -/
def quote (m : Marks) (cs : List Char) : List Char :=
  cs.flatMap fun c => [m.escape, c]

end Marks

namespace Token

/-- Any token but a text. -/
def IsMark (t : Token) : Prop :=
  ∀ text, t ≠ .identifier text

theorem isMark_of_token? {m : Marks} {c : Char} {t : Token} (h : m.token? c = some t) :
    t.IsMark := by
  rintro text rfl
  grind [Marks.token?]

/-! ### Canonical rows -/

/-- The rows of tokens that texts stand for.  No two texts touch, and no action touches the closing
bracket before it; a blank text stands between these two and nowhere else; texts have no whitespace
but spaces. -/
structure Canonical (ts : List Token) : Prop where
  apart (s t : String) : ¬ [.identifier s, .identifier t] <:+: ts
  separated : ¬ [.rightBracket, .action] <:+: ts
  gap (before after : List Token) (s : String) (h : ts = before ++ .identifier s :: after)
    (hs : Text.isBlank s = true) :
    before.getLast? = some .rightBracket ∧ after.head? = some .action
  spaced (s : String) (h : .identifier s ∈ ts) : Text.IsSpaced s.toList

/-- After the token `last`, if there is one, `ts` goes on as in a canonical row. -/
inductive Follows : Option Token → List Token → Prop where
  | nil {last : Option Token} : Follows last []
  | mark {last : Option Token} {t : Token} {ts : List Token} (ht : t.IsMark)
      (hk : keepsText last [] t = false) (h : Follows (some t) ts) : Follows last (t :: ts)
  | text {last : Option Token} {s : String} {t : Token} {ts : List Token}
      (hs : Text.IsSpaced s.toList) (ht : t.IsMark) (hk : keepsText last s.toList t = true)
      (h : Follows (some t) ts) : Follows last (.identifier s :: t :: ts)
  | final {last : Option Token} {s : String} (hs : Text.IsSpaced s.toList)
      (hb : Text.isBlank s = false) : Follows last [.identifier s]

theorem keepsText_iff {last : Option Token} {word : List Char} {next : Token} :
    keepsText last word next = true ↔
      word.all Text.isSpace = false ∨ next = .action ∧ last = some .rightBracket := by
  simp [keepsText]

theorem keepsText_nil {last : Option Token} {next : Token} :
    keepsText last [] next = false ↔ ¬ (next = .action ∧ last = some .rightBracket) := by
  rw [← Bool.not_eq_true, keepsText_iff]
  simp

theorem isMark_or (t : Token) : t.IsMark ∨ ∃ s, t = .identifier s := by
  cases t with
  | identifier s => exact .inr ⟨s, rfl⟩
  | leftBracket | rightBracket | action | assign | suppress => exact .inl fun s h => nomatch h

/-- A text in a row that begins with a mark is one in the rest of the row. -/
theorem IsMark.exists_of_cons_eq {t : Token} (ht : t.IsMark) {ts before after : List Token}
    {s : String} (he : t :: ts = before ++ .identifier s :: after) :
    ∃ rest, before = t :: rest ∧ ts = rest ++ .identifier s :: after := by
  rcases List.cons_eq_append_iff.mp he with ⟨-, hc⟩ | hr
  · exact absurd (List.cons.inj hc).1.symm (ht s)
  · exact hr

namespace Follows

variable {last : Option Token} {ts : List Token}

theorem apart (h : Follows last ts) (s u : String) : ¬ [.identifier s, .identifier u] <:+: ts := by
  induction h with
  | nil => simp
  | mark ht _ _ ih =>
      rw [List.infix_cons_iff, List.cons_prefix_cons]
      exact not_or.mpr ⟨fun hp => ht s hp.1.symm, ih⟩
  | text _ ht _ _ ih =>
      rw [List.infix_cons_iff, List.cons_prefix_cons, List.cons_prefix_cons, List.infix_cons_iff,
        List.cons_prefix_cons]
      exact not_or.mpr ⟨fun hp => ht u hp.2.1.symm, not_or.mpr ⟨fun hp => ht s hp.1.symm, ih⟩⟩
  | final => simp [List.infix_cons_iff]

theorem head (h : Follows (some .rightBracket) ts) : ts.head? ≠ some .action := by
  rintro ha
  cases h with
  | nil => cases ha
  | mark _ hk _ => exact keepsText_nil.mp hk ⟨Option.some.inj ha, rfl⟩
  | text | final => cases ha

theorem separated (h : Follows last ts) : ¬ [.rightBracket, .action] <:+: ts := by
  have hne {t : Token} {us : List Token} (hf : Follows (some t) us) :
      ¬ [.rightBracket, .action] <+: t :: us := by
    rw [List.cons_prefix_cons]
    rintro ⟨rfl, ws, rfl⟩
    exact hf.head rfl
  induction h with
  | nil => simp
  | mark _ _ hf ih => exact fun hi => (List.infix_cons_iff.mp hi).elim (hne hf) ih
  | text _ _ _ hf ih =>
      rw [List.infix_cons_iff, List.cons_prefix_cons, List.infix_cons_iff]
      exact not_or.mpr ⟨fun hp => Token.noConfusion hp.1, not_or.mpr ⟨hne hf, ih⟩⟩
  | final => simp [List.infix_cons_iff]

theorem gap (h : Follows last ts) (before after : List Token) (s : String)
    (he : ts = before ++ .identifier s :: after) (hs : Text.isBlank s = true) :
    (last.toList ++ before).getLast? = some .rightBracket ∧ after.head? = some .action := by
  induction h generalizing before with
  | nil => simp at he
  | mark ht _ _ ih =>
      obtain ⟨rest, rfl, rfl⟩ := ht.exists_of_cons_eq he
      obtain ⟨hl, ha⟩ := ih rest rfl
      exact ⟨by simpa [List.getLast?_append] using hl, ha⟩
  | text _ ht hk _ ih =>
      rcases List.cons_eq_append_iff.mp he with ⟨rfl, hc⟩ | ⟨before, rfl, hr⟩
      -- the blank text is the one in hand
      · cases hc
        obtain hb | ⟨rfl, rfl⟩ := keepsText_iff.mp hk
        · exact absurd hs (Bool.eq_false_iff.mp hb)
        · exact ⟨rfl, rfl⟩
      -- it comes after the mark
      · obtain ⟨rest, rfl, rfl⟩ := ht.exists_of_cons_eq hr
        obtain ⟨hl, ha⟩ := ih rest rfl
        exact ⟨by simpa [List.getLast?_append] using hl, ha⟩
  | final _ hb =>
      rcases List.cons_eq_append_iff.mp he with ⟨rfl, hc⟩ | ⟨before, rfl, hc⟩
      · cases hc
        exact absurd hs (Bool.eq_false_iff.mp hb)
      · simp at hc

theorem spaced (h : Follows last ts) (s : String) (hm : .identifier s ∈ ts) :
    Text.IsSpaced s.toList := by
  induction h with
  | nil => cases hm
  | mark ht _ _ ih => exact ih ((List.mem_cons.mp hm).resolve_left fun he => ht s he.symm)
  | text hs ht _ _ ih =>
      rcases List.mem_cons.mp hm with he | hm
      · cases he
        exact hs
      · exact ih ((List.mem_cons.mp hm).resolve_left fun he => ht s he.symm)
  | final hs _ =>
      cases List.mem_singleton.mp hm
      exact hs

end Follows

namespace Canonical

variable {ts us : List Token}

theorem of_suffix {t : Token} (h : Canonical ts) (ht : t.IsMark) (hs : t :: us <:+ ts) :
    Canonical (t :: us) := by
  refine ⟨fun s u hi => h.apart s u (hi.trans hs.isInfix),
    fun hi => h.separated (hi.trans hs.isInfix), fun before after s he hb => ?_,
    fun s hm => h.spaced s (hs.mem hm)⟩
  obtain ⟨ws, rfl⟩ := hs
  obtain ⟨hl, ha⟩ := h.gap (ws ++ before) after s (by rw [he, List.append_assoc]) hb
  -- the mark stands before the text, so that nothing is lost with what is left out
  obtain ⟨rest, rfl, -⟩ := ht.exists_of_cons_eq he
  exact ⟨by simpa using hl, ha⟩

/-- The token before is a part of the row here. -/
theorem follows_of_append : ∀ (last : Option Token) (ts : List Token),
    Canonical (last.toList ++ ts) → Follows last ts
  | _, [], _ => .nil
  | last, t :: ts, h => by
      rcases t.isMark_or with ht | ⟨s, rfl⟩
      · have hr : Canonical (t :: ts) := h.of_suffix ht (List.suffix_append _ _)
        refine .mark ht (keepsText_nil.mpr ?_) (follows_of_append (some t) ts hr)
        rintro ⟨rfl, rfl⟩
        exact h.separated ⟨[], ts, rfl⟩
      have hs : Text.IsSpaced s.toList := h.spaced s (by simp)
      match ts with
      | [] =>
          refine .final hs (Bool.eq_false_iff.mpr fun hb => ?_)
          exact nomatch (h.gap last.toList [] s rfl hb).2
      | t :: ts =>
          have ht : t.IsMark := by
            rintro u rfl
            exact h.apart s u ⟨last.toList, ts, by simp⟩
          have hr : Canonical (t :: ts) := h.of_suffix ht ⟨last.toList ++ [.identifier s], by simp⟩
          refine .text hs ht (keepsText_iff.mpr ?_) (follows_of_append (some t) ts hr)
          refine Decidable.or_iff_not_imp_left.mpr fun hb => ?_
          obtain ⟨hl, ha⟩ := h.gap last.toList (t :: ts) s rfl (Bool.not_eq_false _ ▸ hb)
          refine ⟨Option.some.inj ha, ?_⟩
          cases last with
          | none => exact nomatch hl
          | some l => exact hl

end Canonical

theorem canonical_iff_follows {ts : List Token} : Canonical ts ↔ Follows none ts :=
  ⟨Canonical.follows_of_append none ts, fun h => ⟨h.apart, h.separated, h.gap, h.spaced⟩⟩

end Token

namespace Marks

theorem Consistent.exists_char? {m : Marks} (hm : m.Consistent) {t : Token} (ht : t.IsMark) :
    ∃ c ∈ m.toList, m.char? t = some c ∧ m.token? c = some t ∧ c ≠ m.escape := by
  have hd := hm.distinct
  simp only [toList, List.nodup_cons, List.mem_cons, List.not_mem_nil, or_false, not_or] at hd
  cases t with
  | identifier s => exact absurd rfl (ht s)
  | leftBracket | rightBracket | action | assign | suppress =>
      refine ⟨_, ?_, rfl, ?_, ?_⟩
      · simp only [toList, List.mem_cons, true_or, or_true]
      · grind [token?]
      · grind

theorem Consistent.isSpace_escape {m : Marks} (hm : m.Consistent) :
    Text.isSpace m.escape = false :=
  hm.visible m.escape (by simp only [toList, List.mem_cons, true_or, or_true])

end Marks

/-! ### Rows of glyphs -/

namespace Glyph

/-- The letters are spaced, and the marks are no texts. -/
def IsPlain : Glyph → Prop
  | .letter c => Text.isSpace c = true → c = ' '
  | .mark t => t.IsMark

theorem isPlain_ofChar {m : Marks} {c : Char} (hc : Text.isSpace c = true → c = ' ') :
    (ofChar m c).IsPlain := by
  rw [ofChar]
  split
  · rename_i ht
    exact Token.isMark_of_token? ht
  · exact hc

theorem isPlain_ofChars {m : Marks} {cs : List Char} (h : Text.IsSpaced cs) (escaped : Bool) :
    ∀ g ∈ ofChars m escaped cs, g.IsPlain := by
  induction cs generalizing escaped with
  | nil => exact fun g hg => absurd hg List.not_mem_nil
  | cons c cs ih =>
      obtain ⟨hc, hcs⟩ := List.forall_mem_cons.mp h
      rw [ofChars]
      split
      · exact List.forall_mem_cons.mpr ⟨hc, ih hcs false⟩
      · split
        · exact ih hcs true
        · exact List.forall_mem_cons.mpr ⟨isPlain_ofChar hc, ih hcs false⟩

/-- The characters of a glyph: a letter stands behind an escape. -/
def render (m : Marks) : Glyph → List Char
  | .letter c => [m.escape, c]
  | .mark t => (m.char? t).toList

/-- The glyph with a space for whitespace. -/
def space : Glyph → Glyph
  | .letter c => .letter (Text.toSpace c)
  | .mark t => .mark t

theorem IsPlain.space_eq {g : Glyph} (hg : g.IsPlain) : g.space = id g := by
  cases g with
  | mark t => rfl
  | letter c => rw [space, Text.toSpace_eq hg, id]

/-- No run of whitespace is longer than one letter, since an escape stands before each. -/
theorem ofChars_render {m : Marks} (hm : m.Consistent) {gs : List Glyph}
    (hg : ∀ t, .mark t ∈ gs → t.IsMark) (inRun : Bool) :
    ofChars m false (Text.collapseFrom inRun (gs.flatMap (render m))) = gs.map space := by
  induction gs generalizing inRun with
  | nil => rfl
  | cons g gs ih =>
      have ih := ih fun t ht => hg t (List.mem_cons_of_mem g ht)
      cases g with
      | mark t =>
          obtain ⟨c, hc, hct, htc, hne⟩ := hm.exists_char? (hg t List.mem_cons_self)
          have hr : (Glyph.mark t).render m = [c] := by rw [render, hct]; rfl
          rw [List.flatMap_cons, hr, List.singleton_append, Text.collapseFrom,
            if_neg (Bool.eq_false_iff.mp (hm.visible c hc)), ofChars, if_neg Bool.false_ne_true,
            if_neg hne, ofChar, htc, ih, List.map_cons, space]
      | letter c =>
          rw [List.flatMap_cons, render, List.cons_append, List.singleton_append,
            Text.collapseFrom, if_neg (Bool.eq_false_iff.mp hm.isSpace_escape), ofChars,
            if_neg Bool.false_ne_true, if_pos rfl, Text.collapseFrom, List.map_cons, space,
            Text.toSpace]
          split
          · rw [if_neg Bool.false_ne_true, ofChars, if_pos rfl, ih]
          · rw [ofChars, if_pos rfl, ih]

end Glyph

namespace Token

/-- The letters of a text, or the one mark. -/
def glyphs : Token → List Glyph
  | .identifier s => s.toList.map .letter
  | t => [.mark t]

theorem glyphs_of_isMark {t : Token} (ht : t.IsMark) : t.glyphs = [.mark t] := by
  cases t with
  | identifier s => exact absurd rfl (ht s)
  | leftBracket | rightBracket | action | assign | suppress => rfl

theorem group_letters (last : Option Token) (word cs : List Char) (gs : List Glyph) :
    group last word (cs.map .letter ++ gs) = group last (word ++ cs) gs := by
  induction cs generalizing word with
  | nil => rw [List.map_nil, List.nil_append, List.append_nil]
  | cons c cs ih => rw [List.map_cons, List.cons_append, group, ih, List.append_assoc]; rfl

theorem Follows.group_glyphs {last : Option Token} {ts : List Token} (h : Follows last ts) :
    group last [] (ts.flatMap glyphs) = ts := by
  induction h with
  | nil => rfl
  | mark ht hk _ ih =>
      rw [List.flatMap_cons, glyphs_of_isMark ht, List.singleton_append, group, hk, ih]
      rfl
  | text _ ht hk _ ih =>
      rw [List.flatMap_cons, List.flatMap_cons, glyphs_of_isMark ht, glyphs, group_letters,
        List.nil_append, List.singleton_append, group, if_pos hk, ih, String.ofList_toList]
  | final _ hb =>
      rw [List.flatMap_singleton, glyphs, ← List.append_nil (List.map _ _), group_letters,
        List.nil_append, group, ← Text.isBlank, if_neg (Bool.eq_false_iff.mp hb),
        String.ofList_toList]

theorem follows_group {last : Option Token} {word : List Char} {gs : List Glyph}
    (hw : Text.IsSpaced word) (hg : ∀ g ∈ gs, g.IsPlain) : Follows last (group last word gs) := by
  have hs : Text.IsSpaced (String.ofList word).toList := by rwa [String.toList_ofList]
  induction gs generalizing last word with
  | nil =>
      rw [group]
      split
      · exact .nil
      · rename_i hb
        exact .final hs (by rw [Text.isBlank, String.toList_ofList, Bool.eq_false_iff.mpr hb])
  | cons g gs ih =>
      obtain ⟨hg, hgs⟩ := List.forall_mem_cons.mp hg
      cases g with
      | letter c =>
          have hwc : Text.IsSpaced (word ++ [c]) :=
            List.forall_mem_append.mpr ⟨hw, List.forall_mem_singleton.mpr hg⟩
          exact ih hwc hgs (by rwa [String.toList_ofList])
      | mark t =>
          have hf : Follows (some t) (group (some t) [] gs) :=
            ih (fun c hc => nomatch hc) hgs (fun c hc => nomatch hc)
          rw [group]
          split
          · exact .text hs hg (by rwa [String.toList_ofList]) hf
          · rename_i hk
            refine .mark hg (keepsText_nil.mpr fun hl => hk (keepsText_iff.mpr (.inr hl))) hf

/-! ### Texts -/

/-- A mark as its character, or a text with every character behind an escape. -/
def render (m : Marks) : Token → List Char
  | .identifier s => m.quote s.toList
  | t => (m.char? t).toList

/-- The text that stands for a row of tokens. -/
def unlex (m : Marks) (ts : List Token) : String :=
  String.ofList (ts.flatMap (render m))

variable {m : Marks}

theorem quote_eq (m : Marks) (cs : List Char) :
    m.quote cs = (cs.map Glyph.letter).flatMap (Glyph.render m) := by
  rw [List.flatMap_map]
  rfl

theorem render_eq (m : Marks) (t : Token) : t.render m = t.glyphs.flatMap (Glyph.render m) := by
  cases t with
  | identifier s => exact quote_eq m s.toList
  | leftBracket | rightBracket | action | assign | suppress => rfl

theorem lex_ofList (hm : m.Consistent) (gs : List Glyph) (hg : ∀ t, .mark t ∈ gs → t.IsMark) :
    lex m (String.ofList (gs.flatMap (Glyph.render m))) = .ok (group none [] (gs.map .space)) := by
  rw [lex, if_pos (Marks.isConsistent_iff.mpr hm), String.toList_ofList, Text.collapse,
    Glyph.ofChars_render hm hg]

theorem canonical_of_lex {text : String} {ts : List Token} (h : lex m text = .ok ts) :
    Canonical ts := by
  rw [lex] at h
  split at h
  · cases h
    refine canonical_iff_follows.mpr (follows_group (fun c hc => nomatch hc) ?_)
    exact Glyph.isPlain_ofChars (Text.isSpaced_collapseFrom false text.toList) false
  · cases h

theorem Canonical.isPlain {ts : List Token} (h : Canonical ts) :
    ∀ g ∈ ts.flatMap glyphs, g.IsPlain := by
  intro g hg
  obtain ⟨t, ht, hg⟩ := List.mem_flatMap.mp hg
  rcases t.isMark_or with hm | ⟨s, rfl⟩
  · rw [glyphs_of_isMark hm] at hg
    cases List.mem_singleton.mp hg
    exact hm
  · obtain ⟨c, hc, rfl⟩ := List.mem_map.mp hg
    exact h.spaced s ht c hc

theorem lex_unlex (hm : m.Consistent) {ts : List Token} (h : Canonical ts) :
    lex m (unlex m ts) = .ok ts := by
  have hp := h.isPlain
  have hs : (ts.flatMap glyphs).map .space = ts.flatMap glyphs :=
    (List.map_congr_left fun g hg => (hp g hg).space_eq).trans (List.map_id _)
  have hr : ts.flatMap (render m) = (ts.flatMap glyphs).flatMap (Glyph.render m) := by
    rw [List.flatMap_assoc, funext (render_eq m)]
  rw [unlex, hr, lex_ofList hm _ fun t => hp (.mark t), hs,
    (canonical_iff_follows.mp h).group_glyphs]

theorem lex_quote (hm : m.Consistent) (text : String) :
    lex m (String.ofList (m.quote text.toList)) =
      .ok (if Text.isBlank text then []
        else [.identifier (String.ofList (text.toList.map Text.toSpace))]) := by
  have hg : ∀ t, .mark t ∈ text.toList.map Glyph.letter → t.IsMark := by simp
  have hl : (text.toList.map Glyph.letter).map Glyph.space
      = (text.toList.map Text.toSpace).map .letter ++ [] := by simp [Glyph.space]
  rw [quote_eq, lex_ofList hm _ hg, hl, group_letters, List.nil_append, group]
  simp [Text.isBlank]

/-- **Reading is onto the canonical rows.**  Marks that are not consistent fail on every text.
Consistent ones fail on none, give canonical rows only, and give every canonical row at the text
written for it; a text behind escapes is one token with the spacing of the text, or none. -/
theorem lex_range (m : Marks) :
    (¬ m.Consistent → ∀ text, lex m text = .error (.ambiguousMarks m)) ∧
    (m.Consistent →
      (∀ text, ∃ ts, lex m text = .ok ts) ∧
      (∀ text ts, lex m text = .ok ts → Canonical ts) ∧
      (∀ ts, Canonical ts → lex m (unlex m ts) = .ok ts) ∧
      (∀ ts, (∃ text, lex m text = .ok ts) ↔ Canonical ts) ∧
      ∀ text, lex m (String.ofList (m.quote text.toList)) =
        .ok (if Text.isBlank text then []
          else [.identifier (String.ofList (text.toList.map Text.toSpace))])) := by
  refine ⟨fun hm text => ?_, fun hm => ⟨fun text => ?_, fun text ts => canonical_of_lex,
    fun ts => lex_unlex hm, fun ts => ⟨fun ⟨text, ht⟩ => canonical_of_lex ht,
      fun h => ⟨unlex m ts, lex_unlex hm h⟩⟩, lex_quote hm⟩⟩
  · rw [lex, if_neg (mt Marks.isConsistent_iff.mp hm)]
  · rw [lex, if_pos (Marks.isConsistent_iff.mpr hm)]
    exact ⟨_, rfl⟩

/-- Marks with one character in two roles. -/
def repeatedMarks : Marks := { assign := ';' }

/-- Two calls that touch. -/
def adjacentCalls : List Token :=
  [.action, .leftBracket, .identifier "a", .rightBracket, .identifier "", .action, .leftBracket,
    .identifier "b", .rightBracket]

theorem lex_range_sample :
    (¬ repeatedMarks.Consistent ∧
      lex repeatedMarks "a" = .error (.ambiguousMarks repeatedMarks)) ∧
    ({} : Marks).Consistent ∧ Canonical adjacentCalls ∧
    lex {} "$(\\a)$(\\b)" = .ok adjacentCalls ∧
    lex {} "\\(\\a\\)\\\t\\$" = .ok [.identifier "(a) $"] := by
  have hm : ({} : Marks).Consistent := by decide
  obtain ⟨-, hc, hu, -, hq⟩ := (lex_range {}).2 hm
  have hl : lex {} "$(a)$(b)" = .ok adjacentCalls := by
    rw [lex, if_pos (by decide)]
    exact congrArg Except.ok (by decide +kernel)
  have ha : Canonical adjacentCalls := hc _ _ hl
  have hut : unlex {} adjacentCalls = "$(\\a)$(\\b)" := by decide +kernel
  have hqt : String.ofList (({} : Marks).quote "(a)\t$".toList) = "\\(\\a\\)\\\t\\$" := by
    decide +kernel
  refine ⟨⟨by decide, (lex_range repeatedMarks).1 (by decide) "a"⟩, hm, ha, ?_, ?_⟩
  · rw [← hut, hu _ ha]
  · rw [← hqt, hq]
    exact congrArg Except.ok (by decide +kernel)

end Token

end ChatBot
