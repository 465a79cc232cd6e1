-- SUMMARY: Which texts make filters, and that a filter keeps what its pattern matches as a whole.
import JavaImports.Project
import JavaImports.Proofs.Pattern.Acceptance

/-! # Symbol filters

A filter is made by putting the text of a pattern between anchors, and it keeps a symbol if the
result matches somewhere. As long as the text is a pattern by itself this is the same as a match of
that pattern with all of the symbol: neither its alternatives nor its flags get at the anchors.

The text is not read by itself first. So there are patterns that make no filter, since they end in a
comment that goes on over the end of the group, and there are texts that make a filter though they
are no patterns, since they close the group around them. -/

namespace JavaImports.SymbolFilter

/-- A filter whose text is a pattern by itself keeps the symbols that the pattern matches from
    beginning to end. -/
theorem keeps_iff {text : String} {pattern : Pattern} {filter : SymbolFilter}
    (hText : Pattern.ofWritten text = .ok pattern) (hFilter : ofText text = .ok filter)
    (symbol : String) : filter.keeps symbol ↔
      pattern.Matches symbol.toList.toArray 0 symbol.toList.length := by
  unfold ofText at hFilter
  obtain ⟨found, hFound, hFilter⟩ := Written.bind_eq_ok.1 hFilter
  obtain rfl := Except.ok.inj hFilter
  rw [keeps, Pattern.eq_betweenAnchors_of_ofWritten hText hFound]
  exact Pattern.isFoundIn_betweenAnchors_iff

private def samplePattern : Pattern :=
  .choice (.chars (.single 'a')) (.sequence (.anchor .lineStart)
    (.sequence (.chars (.single 'a')) (.sequence (.chars (.single 'b')) (.anchor .lineEnd))))

private def sampleFilter : SymbolFilter :=
  ⟨"(?m)a|^ab$", samplePattern.betweenAnchors⟩

/-- Only the second alternative matches all of a symbol, and a line of a symbol is not all of it. -/
theorem keeps_iff_sample :
    Pattern.ofWritten "(?m)a|^ab$" = .ok samplePattern ∧ ofText "(?m)a|^ab$" = .ok sampleFilter ∧
      samplePattern.Matches "ab".toList.toArray 0 2 ∧
      ¬ samplePattern.Matches "ab\nc".toList.toArray 0 4 := by
  have hText : Pattern.ofWritten "(?m)a|^ab$" = .ok samplePattern := rfl
  have hFilter : ofText "(?m)a|^ab$" = .ok sampleFilter := rfl
  refine ⟨hText, hFilter, ?_, ?_⟩
  · exact (keeps_iff hText hFilter "ab").1 (by decide)
  · exact mt (keeps_iff hText hFilter "ab\nc").2 (by decide)

/-! ## Which texts make filters -/

theorem exists_ofText_iff {text : String} :
    (∃ filter, ofText text = .ok filter) ↔ Pattern.IsWritten (anchored text) := by
  unfold ofText
  constructor
  · rintro ⟨filter, hFilter⟩
    obtain ⟨pattern, hPattern, -⟩ := Written.bind_eq_ok.1 hFilter
    exact ⟨pattern, hPattern⟩
  · rintro ⟨pattern, hPattern⟩
    exact ⟨⟨text, pattern⟩, Written.bind_eq_ok.2 ⟨pattern, hPattern, rfl⟩⟩

/-- A filter is known by the text it was made from. -/
theorem text_of_ofText {text : String} {filter : SymbolFilter} (h : ofText text = .ok filter) :
    filter.text = text := by
  obtain ⟨pattern, -, h⟩ := Written.bind_eq_ok.1 h
  rw [← Except.ok.inj h]

/-- A build with a text that makes no filter looks at no file and leaves the project without
    imports. -/
theorem build_of_ofText_eq_error {text : String} {error : PatternError} (project : Project)
    (fs : FileSystem) (h : ofText text = .error error) :
    project.build fs text = (project.clear, ⟨[], .error (.badPattern error text)⟩) := by
  rw [Project.build, h]

/-- Which texts make a filter, and what becomes of a build with any other text. -/
theorem ofText_spec (project : Project) (fs : FileSystem) (text : String) :
    -- a pattern does, unless a comment at its end goes on over what is put after it
    (Pattern.IsWritten text →
      ((∃ filter, ofText text = .ok filter) ↔ ¬ Pattern.IsWritten (text ++ ")$"))) ∧
    -- a text that is no pattern does only if it closes a group that it has not opened
    (¬ Pattern.IsWritten text → (∃ filter, ofText text = .ok filter) →
      Pattern.ofWritten text = .error .unopenedGroup) ∧
    (∀ filter, ofText text = .ok filter → filter.text = text) ∧
    -- with any other text a build fails, and the text is told
    ((¬ ∃ filter, ofText text = .ok filter) → ∃ error, ofText text = .error error ∧
      project.build fs text =
        ({ project with imports := ImportMap.empty }, ⟨[], .error (.badPattern error text)⟩)) := by
  refine ⟨fun hText => ?_, fun hText hFilter => ?_, fun filter => text_of_ofText, fun hNone => ?_⟩
  · rw [exists_ofText_iff]
    exact Pattern.isWritten_anchored_iff hText
  · exact Pattern.unopenedGroup_of_isWritten_anchored hText (exists_ofText_iff.1 hFilter)
  · cases hRead : ofText text with
    | ok filter => exact absurd ⟨filter, hRead⟩ hNone
    | error error => exact ⟨error, rfl, build_of_ofText_eq_error project fs hRead⟩

/-- Being a pattern is neither necessary nor enough for a text to make a filter. -/
theorem ofText_misjudges :
    ((∃ filter, ofText "a)|(?:b" = .ok filter) ∧ ¬ Pattern.IsWritten "a)|(?:b") ∧
      (Pattern.IsWritten "(?x)a #c" ∧ ¬ ∃ filter, ofText "(?x)a #c" = .ok filter) := by
  have hCloses : Pattern.ofWritten "a)|(?:b" = .error .unopenedGroup := rfl
  have hSwallows : ofText "(?x)a #c" = .error .unclosedGroup := rfl
  refine ⟨⟨⟨_, rfl⟩, ?_⟩, ⟨_, rfl⟩, ?_⟩
  · rintro ⟨pattern, hPattern⟩
    rw [hCloses] at hPattern
    cases hPattern
  · rintro ⟨filter, hFilter⟩
    rw [hSwallows] at hFilter
    cases hFilter

end JavaImports.SymbolFilter
