import ColumnLineage.Yaml.Scalar
import ColumnLineage.Yaml.Token

/-!
# Tokens by indentation

A line that is indented more than the one around it opens a block, and one that is indented less
closes it.  What a colon follows turns out to be a key only then, so tokens are put in front of it
afterwards.

## Main definitions

* `Candidate`: a token that may turn out to be a key.
* `Lexer`: what was read, with the blocks that are open.
* `Lexer.step`: the next tokens.
* `tokens`: the tokens of a text.
-/

namespace ColumnLineage.Yaml

/-- A token that may turn out to be a key. -/
structure Candidate where
  /-- The tokens in front. -/
  position : Nat
  line : Nat
  column : Nat
  index : Nat
  /-- Nothing but a key can stand here. -/
  required : Bool
deriving Repr

/-- What was read, with the blocks that are open. -/
structure Lexer where
  /-- The tokens, the last one first. -/
  found : List Token := []
  /-- The columns of the open blocks, the innermost first. -/
  indents : List Nat := []
  /-- A key may start here. -/
  keyAllowed : Bool := true
  candidate : Option Candidate := none
  /-- The candidates in front of the open brackets, the innermost first. -/
  outer : List (Option Candidate) := []

/-- A reader that puts tokens together. -/
abbrev Lex := StateT Lexer Scan

namespace Lexer

/-- The place stands between brackets. -/
def inFlow (s : Lexer) : Bool := !s.outer.isEmpty

/-- The column of the innermost block. -/
def indent (s : Lexer) : Option Nat := s.indents.head?

/-- Puts a token in front of those behind a position. -/
def insert (s : Lexer) (position : Nat) (t : Token) : Lexer :=
  let behind := s.found.length - position
  { s with found := s.found.take behind ++ t :: s.found.drop behind }

/-- Fails unless a condition holds. -/
def ensure (condition : Bool) (fault : Fault) : Lex Unit :=
  liftM (Scan.ensure condition fault)

/-- Puts a token behind all others. -/
def emit (t : Token) : Lex Unit :=
  modify fun s => { s with found := t :: s.found }

/-- Says whether a key may start here. -/
def allowKey (allowed : Bool) : Lex Unit :=
  modify fun s => { s with keyAllowed := allowed }

/-- Opens a block at a column, unless one is open there already. -/
def openBlock (column position : Nat) (t : Token) : Lex Unit :=
  modify fun s =>
    if !s.inFlow && s.indent.all (· < column) then
      insert { s with indents := column :: s.indents } position t
    else s

/-- Closes the blocks whose columns do not stay. -/
def closeBlocks (stays : Nat → Bool) : Lex Unit :=
  modify fun s =>
    if s.inFlow then s
    else
      let closed := s.indents.takeWhile fun column => !stays column
      { s with
        indents := s.indents.drop closed.length
        found := closed.map (fun _ => Token.blockEnd) ++ s.found }

/-- The candidate is no key. -/
def dropCandidate : Lex Unit := do
  ensure (!(← get).candidate.any Candidate.required) .keyWithoutColon
  modify fun s => { s with candidate := none }

/-- A key stands on one line and has at most 1024 characters. -/
def isStale (c : Cursor) (candidate : Candidate) : Bool :=
  candidate.line < c.line || candidate.index + 1024 < c.index

/-- Drops the candidates that are no keys because of what was read since. -/
def dropStaleCandidates : Lex Unit := do
  let c ← getThe Cursor
  let stale (candidate : Option Candidate) : Bool := candidate.any (isStale c)
  let s ← get
  ensure ((s.candidate :: s.outer).all fun candidate =>
    !(stale candidate && candidate.any Candidate.required)) .keyWithoutColon
  let fresh (candidate : Option Candidate) : Option Candidate :=
    if stale candidate then none else candidate
  set { s with candidate := fresh s.candidate, outer := s.outer.map fresh }

/-- The next token may turn out to be a key. -/
def offerCandidate : Lex Unit := do
  if (← get).keyAllowed then
    dropCandidate
    let c ← getThe Cursor
    modify fun s => { s with
      candidate := some ⟨s.found.length, c.line, c.column, c.index,
        !s.inFlow && s.indent == some c.column⟩ }

/-- Goes on to the next token.  Tabs do not count as blanks where a key may start, outside of
brackets. -/
def toNextToken : Lex Unit := do
  let s ← get
  let keyAllowed ← liftM (Scan.iterate s.keyAllowed fun keyAllowed => do
    let _ ← Scan.takeWhile fun c => c == ' ' || ((s.inFlow || !keyAllowed) && c == '\t')
    Scan.comment
    if (← Scan.peek).any isBreak then
      let _ ← Scan.lineBreak
      return some (keyAllowed || !s.inFlow)
    return none)
  allowKey keyAllowed

/-- Takes some characters, which make up a token. -/
def mark (characters : Nat) (t : Token) : Lex Unit := do
  (List.replicate characters ()).forM fun _ => liftM Scan.skip
  emit t

/-- A directive or the start or end of a document, which closes all blocks. -/
def atDocumentEdge (next : Lex Unit) : Lex Unit := do
  closeBlocks fun _ => false
  dropCandidate
  allowKey false
  next

/-- A directive. -/
def directiveHere : Lex Unit :=
  atDocumentEdge do
    liftM Scan.skip
    emit (← liftM directive)

/-- An opening bracket. -/
def openFlow (t : Token) : Lex Unit := do
  offerCandidate
  modify fun s => { s with candidate := none, outer := s.candidate :: s.outer }
  allowKey true
  mark 1 t

/-- A closing bracket. -/
def closeFlow (t : Token) : Lex Unit := do
  dropCandidate
  modify fun s => match s.outer with
    | [] => s
    | candidate :: outer => { s with candidate, outer }
  allowKey false
  mark 1 t

/-- A comma. -/
def flowEntry : Lex Unit := do
  dropCandidate
  allowKey true
  mark 1 .flowEntry

/-- A block opens in front of a mark, which must stand where a key may start. -/
def openBlockHere (t : Token) (fault : Fault) : Lex Unit := do
  let s ← get
  if !s.inFlow then
    ensure s.keyAllowed fault
    openBlock (← liftM Scan.column) s.found.length t

/-- The mark of an element. -/
def blockEntry : Lex Unit := do
  openBlockHere .blockSequenceStart .misplacedEntry
  dropCandidate
  allowKey true
  mark 1 .blockEntry

/-- The mark of a key. -/
def keyMark : Lex Unit := do
  openBlockHere .blockMappingStart .misplacedKey
  dropCandidate
  allowKey !(← get).inFlow
  mark 1 .key

/-- A colon: the candidate turns out to be a key. -/
def valueMark : Lex Unit := do
  match (← get).candidate with
  | some candidate =>
    modify fun s => { s.insert candidate.position .key with candidate := none }
    openBlock candidate.column candidate.position .blockMappingStart
    allowKey false
  | none =>
    openBlockHere .blockMappingStart .misplacedValue
    allowKey !(← get).inFlow
  mark 1 .value

/-- A token that may turn out to be a key. -/
def candidateToken (read : Scan Token) : Lex Unit := do
  offerCandidate
  allowKey false
  emit (← liftM read)

/-- A scalar of some characters. -/
def scalar (style : Style) (text : List Char) : Token :=
  .scalar style (String.ofList text)

/-- A block of lines. -/
def blockScalar (style : Style) : Lex Unit := do
  dropCandidate
  allowKey true
  let outer := (← get).indent
  liftM Scan.skip
  emit (scalar style (← liftM (blockText (style == .folded) outer)))

/-- A plain scalar.  A line break behind it lets a key start. -/
def plainScalar : Lex Unit := do
  offerCandidate
  let s ← get
  let (text, broken) ← liftM (plainText (s.indent.elim 0 (· + 1)) s.inFlow)
  allowKey broken
  emit (scalar .plain text)

/-- A token behind a mark of one character. -/
def behindMark (read : Scan Token) : Scan Token := do
  Scan.skip
  read

/-- The marks that no plain scalar starts with. -/
def startMarks : List Char :=
  ['-', '?', ':', ',', '[', ']', '\x7b', '\x7d', '#', '&', '*', '!', '|', '>', '\'', '"', '%', '@',
    '\x60']

/-- A plain scalar may start with a character that has some characters behind it. -/
def startsPlain (inFlow : Bool) (c : Char) (more : List Char) : Bool :=
  !(isBlank c || isBreak c || startMarks.contains c) ||
    (c == '-' && !more.head?.any isBlank) ||
    (!inFlow && (c == '?' || c == ':') && !blankOrEnd more)

/-- The token that starts with a character. -/
def tokenAt (c : Char) (more : List Char) : Lex Unit := do
  let inFlow := (← get).inFlow
  match c with
  | '[' => openFlow .flowSequenceStart
  | ']' => closeFlow .flowSequenceEnd
  | '\x7b' => openFlow .flowMappingStart
  | '\x7d' => closeFlow .flowMappingEnd
  | ',' => flowEntry
  | '*' => candidateToken (behindMark (.aliasOf <$> anchorName))
  | '&' => candidateToken (behindMark (.anchor <$> anchorName))
  | '!' => candidateToken (.tag <$> tag inFlow)
  | '\'' | '"' => candidateToken (behindMark (scalar .quoted <$> quotedText c))
  | _ =>
    if c == '-' && blankOrEnd more then blockEntry
    else if c == '?' && (inFlow || blankOrEnd more) then keyMark
    else if c == ':' && (inFlow || blankOrEnd more) then valueMark
    else if c == '|' && !inFlow then blockScalar .literal
    else if c == '>' && !inFlow then blockScalar .folded
    else
      ensure (startsPlain inFlow c more) .badStart
      plainScalar

/-- The end of a text closes all blocks. -/
def finish : Lex Unit := do
  closeBlocks fun _ => false
  dropCandidate

/-- The next token; nothing is left behind the last one. -/
def step : Lex Bool := do
  toNextToken
  dropStaleCandidates
  let c ← getThe Cursor
  closeBlocks (· ≤ c.column)
  match c.rest with
  | [] =>
    finish
    return false
  | char :: more =>
    if c.column == 0 && char == '%' then directiveHere
    else if c.column == 0 && marksDocument '-' c.rest then atDocumentEdge (mark 3 .documentStart)
    else if c.column == 0 && marksDocument '.' c.rest then atDocumentEdge (mark 3 .documentEnd)
    else tokenAt char more
    return true

/-- Repeats steps up to the end.  Every step takes a character. -/
def run : Nat → Lex Unit
  | 0 => return ()
  | fuel + 1 => do
    if ← step then run fuel

end Lexer

/-- The characters that a text may have. -/
def isAllowed (c : Char) : Bool :=
  let n := c.toNat
  n == 0x09 || n == 0x0A || n == 0x0D || (0x20 ≤ n && n ≤ 0x7E) || n == 0x85 ||
    (0xA0 ≤ n && n ≤ 0xD7FF) || (0xE000 ≤ n && n ≤ 0xFFFD && n != 0xFEFF) || 0x10000 ≤ n

/-- The tokens of a text.  A byte order mark may stand in front of all. -/
def tokens (text : String) : Except Fault (List Token) := do
  let chars := match text.toList with
    | '\ufeff' :: rest => rest
    | chars => chars
  if !chars.all isAllowed then throw .controlCharacter
  let ((_, lexer), _) ← ((Lexer.run (chars.length + 1)).run {}).run (.ofChars chars)
  return lexer.found.reverse

end ColumnLineage.Yaml
