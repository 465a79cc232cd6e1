-- SUMMARY: The files that a configuration of directories and endings selects, the default one first.
import JavaImports.Config.Inclusion
import JavaImports.Proofs.Glob
import JavaImports.Proofs.Path

/-! # Files in and below directories

A configuration whose globs leave out directories at the top of the project and take files by their
endings selects a path by its beginning and its end alone. The default configuration is one of
these: it selects the Java files outside seven directories. A step of a path is compared as a whole
and letter by letter, so a directory with a longer name, with other capitals or further down is not
left out. -/

namespace JavaImports.Config

open Glob (IsPlain)

/-- The path is selected by an ending unless it lies below a directory that is left out. -/
theorem selects_eq_true_iff {config : Config} {directories endings : List String}
    (hExcluded : config.excluded = directories.map (· ++ "/**"))
    (hIncluded : config.included = endings.map ("**/*" ++ ·))
    (hDirectories : ∀ directory ∈ directories, IsPlain directory)
    (hEndings : ∀ ending ∈ endings, IsPlain ending) (path : String) :
    config.selects path = true ↔
      (∃ ending ∈ endings, ending.toList <:+ path.toList) ∧
        ∀ directory ∈ directories, ¬ (directory ++ "/").toList <+: path.toList := by
  rw [selects, hExcluded, hIncluded, List.any_map, List.any_map, Bool.and_eq_true,
    Bool.not_eq_true', List.any_eq_false, List.any_eq_true, and_comm]
  refine and_congr (exists_congr fun ending => and_congr_right fun hMem => ?_)
    (forall₂_congr fun directory hMem => not_congr ?_)
  · exact Glob.describes_ending_iff (hEndings ending hMem) path
  · exact Glob.describes_below_iff (hDirectories directory hMem) path

/-! ## Paths by their first step -/

/-- A directory lies at the top of exactly the paths that have it for their first step. -/
theorem prefix_step_iff {directory first rest : List Char} (hDirectory : '/' ∉ directory)
    (hFirst : '/' ∉ first) :
    directory ++ ['/'] <+: first ++ '/' :: rest ↔ directory = first := by
  constructor
  · rintro ⟨more, hPath⟩
    have hParts := congrArg (Text.parts '/') hPath
    rw [List.append_assoc, List.singleton_append, Text.parts_append_separator,
      Text.parts_append_separator, Text.parts_of_notMem hDirectory,
      Text.parts_of_notMem hFirst] at hParts
    exact (List.cons.inj hParts).1
  · rintro rfl
    exact ⟨rest, by simp⟩

/-- An ending without a slash is an end of the last step. -/
theorem suffix_step_iff {ending front rest : List Char} (hEnding : '/' ∉ ending) :
    ending <:+ front ++ '/' :: rest ↔ ending <:+ rest := by
  constructor
  · intro hPath
    rcases List.suffix_or_suffix_of_suffix hPath (List.suffix_append front ('/' :: rest)) with
      hShort | hLong
    · rcases List.suffix_cons_iff.1 hShort with rfl | hRest
      · exact absurd (List.mem_cons_self ..) hEnding
      · exact hRest
    · exact absurd (hLong.subset (List.mem_cons_self ..)) hEnding
  · intro hRest
    exact hRest.trans ((List.suffix_cons '/' rest).trans (List.suffix_append ..))

/-! ## The default configuration -/

/-- The directories at the top of a project that are left out if nothing else is said. -/
def defaultLeftOut : List String :=
  ["target", "build", "out", ".git", ".gradle", ".importgraph", "node_modules"]

theorem selects_default_iff (path : String) :
    selects {} path = true ↔ ".java".toList <:+ path.toList ∧
      ∀ directory ∈ defaultLeftOut, ¬ (directory ++ "/").toList <+: path.toList := by
  have hSelects := @selects_eq_true_iff {} defaultLeftOut [".java"] (by decide) (by decide)
    (by decide) (by decide) path
  simpa using hSelects

theorem not_mem_slash_of_leftOut : ∀ directory ∈ defaultLeftOut, '/' ∉ directory.toList := by
  decide

/-- By default exactly the paths that end in `.java` are selected, unless they begin with one of
    seven directories and a slash. A file at the top of the project is selected by its ending alone,
    and one further down by its ending if the first step of its path is none of the seven names. It
    makes no difference to this whether globs are matched by trying everything or with giving up
    early. -/
theorem default_selects_java :
    (∀ path, selects {} path = true ↔ ".java".toList <:+ path.toList ∧
      ∀ directory ∈ defaultLeftOut, ¬ (directory ++ "/").toList <+: path.toList) ∧
    (∀ name : String, '/' ∉ name.toList →
      (selects {} name = true ↔ ".java".toList <:+ name.toList)) ∧
    (∀ first rest : String, '/' ∉ first.toList →
      (selects {} (first ++ "/" ++ rest) = true ↔
        ".java".toList <:+ rest.toList ∧ first ∉ defaultLeftOut)) ∧
    ∀ glob path, Glob.finds glob path = Glob.describes glob path := by
  refine ⟨selects_default_iff, fun name hName => ?_, fun first rest hFirst => ?_,
    Glob.finds_eq_describes⟩
  · rw [selects_default_iff, and_iff_left]
    -- a path without a slash lies in no directory
    intro directory _ hPrefix
    exact hName (hPrefix.subset (by simp))
  · have hPath : (first ++ "/" ++ rest).toList = first.toList ++ '/' :: rest.toList := by simp
    rw [selects_default_iff, hPath, suffix_step_iff (by decide)]
    refine and_congr_right fun _ => ?_
    have hFirstStep : ∀ directory ∈ defaultLeftOut,
        (directory ++ "/").toList <+: first.toList ++ '/' :: rest.toList ↔ directory = first := by
      intro directory hMem
      rw [String.toList_append, ← String.toList_inj]
      exact prefix_step_iff (not_mem_slash_of_leftOut directory hMem) hFirst
    constructor
    · intro hNone hMem
      exact hNone first hMem ((hFirstStep first hMem).2 rfl)
    · intro hOther directory hMem hPrefix
      obtain rfl := (hFirstStep directory hMem).1 hPrefix
      exact hOther hMem

/-- A directory with the name of one that is left out is selected from if it lies further down, has
    a longer name or is written in capitals. -/
theorem default_selects_java_lookalikes :
    ('/' ∉ "target.java".toList ∧ selects {} "target.java" = true) ∧
    ('/' ∉ "target".toList ∧ selects {} ("target" ++ "/" ++ "A.java") = false) ∧
    ('/' ∉ "a".toList ∧ selects {} ("a" ++ "/" ++ "target/A.java") = true) ∧
    ('/' ∉ "targets".toList ∧ selects {} ("targets" ++ "/" ++ "A.java") = true) ∧
    ('/' ∉ "Target".toList ∧ selects {} ("Target" ++ "/" ++ "A.java") = true ∧
      selects {} ("Target" ++ "/" ++ "A.Java") = false) := by
  obtain ⟨-, hTop, hBelow, -⟩ := default_selects_java
  refine ⟨⟨by decide, (hTop _ (by decide)).2 (by decide)⟩, ⟨by decide, ?_⟩,
    ⟨by decide, (hBelow _ _ (by decide)).2 (by decide)⟩,
    ⟨by decide, (hBelow _ _ (by decide)).2 (by decide)⟩,
    by decide, (hBelow _ _ (by decide)).2 (by decide), ?_⟩
  · rw [Bool.eq_false_iff, ne_eq, hBelow _ _ (by decide)]
    decide
  · rw [Bool.eq_false_iff, ne_eq, hBelow _ _ (by decide)]
    decide

end JavaImports.Config
