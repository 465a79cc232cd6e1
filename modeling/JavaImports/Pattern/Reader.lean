-- SUMMARY: Reading a pattern from its written form.
import JavaImports.Pattern.Class

/-! # Written patterns

A pattern is read from left to right. The groups that are open form a stack: each remembers what
stood before it, so that reading can go on there when the group is closed. Flags set inside a group
end with it. -/

namespace JavaImports.Written

/-- The alternatives and the parts read so far within one group. A part is missing where flags were
    set: nothing there can be repeated. Both lists have the latest first. -/
structure Level where
  branches : List Pattern
  parts : List (Option Pattern)

/-- A level without content. -/
def Level.empty : Level := ⟨[], []⟩

/-- The pattern of the parts of the current alternative. -/
def Level.branch (level : Level) : Pattern :=
  Pattern.ofSequence (level.parts.reverse.filterMap id)

/-- The pattern of all alternatives. -/
def Level.pattern (level : Level) : Pattern :=
  Pattern.ofChoice (level.branch :: level.branches).reverse

/-- Adds a part. -/
def Level.add (level : Level) (part : Pattern) : Level :=
  { level with parts := some part :: level.parts }

/-- What a reader knows: the flags in force, the current level, the levels of the groups around it
    with the flags in force there, and the names given to groups. -/
structure State where
  flags : Flags
  level : Level
  around : List (Level × Flags)
  names : List (List Char)

/-- Adds a part to the current level. -/
def State.add (state : State) (part : Pattern) : State :=
  { state with level := state.level.add part }

/-- Opens a group in which `flags` are in force. -/
def State.openGroup (state : State) (flags : Flags) : State :=
  { state with
    flags
    level := .empty
    around := (state.level, state.flags) :: state.around }

/-- Closes the group that was opened last. -/
def State.closeGroup (state : State) : Outcome State :=
  match state.around with
  | [] => .error .unopenedGroup
  | (level, flags) :: around =>
    .ok { state with flags, level := level.add state.level.pattern, around }

/-- Starts the next alternative. -/
def State.nextBranch (state : State) : State :=
  { state with level := ⟨state.level.branch :: state.level.branches, []⟩ }

/-- Repeats the part read last. -/
def State.repeatLast (state : State) (least : Nat) (most? : Option Nat) :
    Outcome State :=
  match state.level.parts with
  | some part :: parts =>
    .ok { state with
      level := { state.level with parts := some (.repeated part least most?) :: parts } }
  | _ => .error .nothingToRepeat

/-- Whether the part read last can be repeated. -/
def State.canRepeat (state : State) : Outcome Unit :=
  match state.level.parts with
  | some _ :: _ => .ok ()
  | _ => .error .nothingToRepeat

/-- The text after a question mark at its front, which only tells which match to prefer. -/
def dropPreference : List Char → List Char
  | '?' :: rest => rest
  | text => text

/-- The pattern of a character. -/
def Flags.charPattern (flags : Flags) (c : Char) : Pattern :=
  let cased := flags.ignoreCase && (flags.wide || c.isAlpha)
  .chars (if cased then flags.foldCase (.single c) else .single c)

/-- The pattern of a dot. -/
def Flags.dotPattern (flags : Flags) : Outcome Pattern :=
  if !flags.wide then .error .mayMatchPartOfCharacter
  else if flags.dotMatchesAll then .ok (.chars .all)
  else if flags.anyLineEnd then .ok (.chars (.complement (.ranges [⟨0xA, 0xA⟩, ⟨0xD, 0xD⟩])))
  else .ok (.chars (.complement (.single '\n')))

/-- The pattern of the sign for the start of the text or of a line. -/
def Flags.startPattern (flags : Flags) : Pattern :=
  .anchor (if !flags.multiLine then .textStart
    else if flags.anyLineEnd then .lineStartAny else .lineStart)

/-- The pattern of the sign for the end of the text or of a line. -/
def Flags.endPattern (flags : Flags) : Pattern :=
  .anchor (if !flags.multiLine then .textEnd
    else if flags.anyLineEnd then .lineEndAny else .lineEnd)

/-- The pattern of an escape. -/
def Flags.escapePattern (flags : Flags) (escape : Escape) : Outcome Pattern :=
  let ascii := !flags.wide
  match escape with
  | .char c byte =>
    if byte && ascii && 0x80 ≤ c.toNat then .error .mayMatchPartOfCharacter
    else .ok (flags.charPattern c)
  | .textStart => .ok (.anchor .textStart)
  | .textEnd => .ok (.anchor .textEnd)
  | .wordEdge => .ok (.anchor (.wordEdge ascii))
  | .noWordEdge => .ok (.anchor (.noWordEdge ascii))
  | .wordStart => .ok (.anchor (.wordStart ascii))
  | .wordEnd => .ok (.anchor (.wordEnd ascii))
  | .noWordBefore => .ok (.anchor (.noWordBefore ascii))
  | .noWordAfter => .ok (.anchor (.noWordAfter ascii))
  | other =>
    match flags.escapeClass? other with
    | some cls => do return .chars (← cls)
    | none => .error .unknownEscape

/-- Whether what follows an opening parenthesis asks for a look-around. -/
def isLookAround (text : List Char) : Bool :=
  ["?=", "?!", "?<=", "?<!"].any fun mark => mark.toList.isPrefixOf text

/-- Opens a group with a name. -/
def State.openNamed (state : State) (text : List Char) : Outcome (State × List Char) := do
  let (name, rest) ← groupName true text
  if state.names.contains name then .error .duplicateGroupName
  else return ({ state with names := name :: state.names }.openGroup state.flags, rest)

/-- Reads what follows an opening parenthesis: the beginning of a group, or flags that are in force
    from here on. -/
def State.group (state : State) (text : List Char) : Outcome (State × List Char) :=
  let text := skip state.flags.spaced text
  if isLookAround text then .error .lookAround
  else match text with
    | '?' :: 'P' :: '<' :: rest => state.openNamed rest
    | '?' :: '<' :: rest => state.openNamed rest
    | '?' :: [] => .error .unclosedGroup
    | '?' :: rest => do
      let (next, after) ← Written.flags state.flags [] false rest
      match after with
      | ')' :: after =>
        if after.length + 1 = rest.length then .error .nothingToRepeat
        else return ({ state with
          flags := next
          level := { state.level with parts := none :: state.level.parts } }, after)
      | _ :: after => return (state.openGroup next, after)
      | [] => .error .unclosedFlags
    | rest => .ok (state.openGroup state.flags, rest)

/-- Reads the next part of a text that starts with no gap. -/
def State.next (state : State) (c : Char) (rest : List Char) : Outcome (State × List Char) :=
  let flags := state.flags
  match c with
  | '(' => state.group rest
  | ')' => do return (← state.closeGroup, rest)
  | '|' => .ok (state.nextBranch, rest)
  | '[' => do
    let (cls, rest) ← bracketed flags rest
    return (state.add (.chars cls), rest)
  | '?' => do return (← state.repeatLast 0 (some 1), dropPreference rest)
  | '*' => do return (← state.repeatLast 0 none, dropPreference rest)
  | '+' => do return (← state.repeatLast 1 none, dropPreference rest)
  | '\x7b' => do
    let _ ← state.canRepeat
    let ((least, most?), rest) ← bounds flags.spaced rest
    return (← state.repeatLast least most?, dropPreference (skip flags.spaced rest))
  | '\\' => do
    let (found, rest) ← escape flags.spaced rest
    return (state.add (← flags.escapePattern found), rest)
  | '.' => do return (state.add (← flags.dotPattern), rest)
  | '^' => .ok (state.add flags.startPattern, rest)
  | '$' => .ok (state.add flags.endPattern, rest)
  | c => .ok (state.add (flags.charPattern c), rest)

/-- Reads a text to its end. Every part takes at least one character. -/
def State.readAll : (fuel : Nat) → State → List Char → Outcome State
  | 0, _, _ => .error .unclosedGroup
  | fuel + 1, state, text =>
    match skip state.flags.spaced text with
    | [] => .ok state
    | c :: rest => do
      let (state, rest) ← state.next c rest
      readAll fuel state rest

end Written

namespace Pattern

/-- The pattern that a text is the written form of. -/
def ofWritten (text : String) : Except PatternError Pattern := do
  let start : Written.State := ⟨{}, .empty, [], []⟩
  let state ← start.readAll (text.toList.length + 1) text.toList
  if state.around.isEmpty then return state.level.pattern else .error .unclosedGroup

end Pattern

end JavaImports
