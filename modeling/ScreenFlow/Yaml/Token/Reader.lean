import ScreenFlow.Yaml.Token.Block
import ScreenFlow.Yaml.Token.Name
import ScreenFlow.Yaml.Token.Plain

namespace ScreenFlow.Yaml

/-! From characters to tokens. Block collections are opened and closed by indentation. A key without
an indicator is known as a key only when its colon is found, at most 1024 characters later and on
the same line; its place is remembered until then, and the tokens it calls for are put in at the
end. -/

structure KeyCandidate where
  position : Nat
  required : Bool
  index : Nat
  line : Nat
  column : Nat
  deriving DecidableEq, Repr

/-- A key that was found: where it starts, and whether it opens a block mapping. -/
structure FoundKey where
  position : Nat
  opensMapping : Bool
  deriving DecidableEq, Repr

structure TokenReader where
  cursor : Cursor
  flowLevel : Nat
  indent : Int
  outerIndents : List Int
  keyAllowed : Bool
  candidates : List (Nat × KeyCandidate)
  tokens : Array Token
  keys : List FoundKey
  deriving DecidableEq, Repr

namespace TokenReader

def start (text : List Char) : TokenReader where
  cursor := .start text
  flowLevel := 0
  indent := -1
  outerIndents := []
  keyAllowed := true
  candidates := []
  tokens := #[]
  keys := []

def inFlow (reader : TokenReader) : Bool := reader.flowLevel != 0

def column (reader : TokenReader) : Int := reader.cursor.column

def emit (token : Token) (reader : TokenReader) : TokenReader :=
  { reader with tokens := reader.tokens.push token }

def take (count : Nat) (token : Token) (reader : TokenReader) : TokenReader :=
  { reader with cursor := reader.cursor.forward count, tokens := reader.tokens.push token }

def allowKey (allowed : Bool) (reader : TokenReader) : TokenReader :=
  { reader with keyAllowed := allowed }

/-! ## Keys -/

def candidate? (reader : TokenReader) : Option KeyCandidate :=
  (reader.candidates.find? fun entry => entry.1 == reader.flowLevel).map Prod.snd

def dropCandidate (reader : TokenReader) : TokenReader :=
  { reader with
    candidates := reader.candidates.filter fun entry => entry.1 != reader.flowLevel }

def forgetCandidate (reader : TokenReader) : Except Fault TokenReader := do
  require !(reader.candidate?.any (·.required))
  return reader.dropCandidate

def noteCandidate (reader : TokenReader) : Except Fault TokenReader := do
  if reader.keyAllowed then
    let reader ← reader.forgetCandidate
    let candidate : KeyCandidate := {
      position := reader.tokens.size
      required := !reader.inFlow && reader.indent == reader.column
      index := reader.cursor.index
      line := reader.cursor.line
      column := reader.cursor.column }
    return { reader with candidates := (reader.flowLevel, candidate) :: reader.candidates }
  else return reader

def isStale (cursor : Cursor) (candidate : KeyCandidate) : Bool :=
  candidate.line != cursor.line || cursor.index - candidate.index > 1024

def dropStale (reader : TokenReader) : Except Fault TokenReader := do
  let (stale, fresh) := reader.candidates.partition fun entry => isStale reader.cursor entry.2
  require !(stale.any (·.2.required))
  return { reader with candidates := fresh }

/-! ## Indentation -/

def closeBlocks (column : Int) (reader : TokenReader) : TokenReader :=
  let indents := reader.indent :: reader.outerIndents
  let closed := (indents.takeWhile (· > column)).length
  match reader.inFlow, indents.drop closed with
  | false, indent :: outer =>
      { reader with
        indent, outerIndents := outer
        tokens := reader.tokens ++ Array.replicate closed .blockEnd }
  | _, _ => reader

/-- Open a block collection at a column, unless one is open there. The second part of the result
tells whether it was opened. -/
def openBlock (column : Int) (reader : TokenReader) : TokenReader × Bool :=
  if reader.indent < column then
    ({ reader with indent := column, outerIndents := reader.indent :: reader.outerIndents }, true)
  else (reader, false)

def openBlockHere (token : Token) (reader : TokenReader) : Except Fault TokenReader := do
  if reader.inFlow then return reader
  else
    require reader.keyAllowed
    let (opened, isNew) := reader.openBlock reader.column
    return if isNew then opened.emit token else opened

/-! ## Blanks -/

/-- Skip blanks, comments and at most `fuel` line breaks. Outside brackets a key may start on a new
line. -/
def skipBlanks : Nat → TokenReader → TokenReader
  | 0, reader => reader
  | fuel + 1, reader =>
      let cursor := reader.cursor.skipSpaces.skipComment
      match cursor.lineBreak? with
      | some (_, cursor) =>
          skipBlanks fuel
            { reader with cursor, keyAllowed := reader.keyAllowed || !reader.inFlow }
      | none => { reader with cursor }

def skipByteOrderMark (reader : TokenReader) : TokenReader :=
  if reader.cursor.index = 0 && reader.cursor.current = '\ufeff' then
    { reader with cursor := reader.cursor.next }
  else reader

/-! ## Tokens -/

def endContent (reader : TokenReader) : Except Fault TokenReader := do
  return (← (reader.closeBlocks (-1)).forgetCandidate).allowKey false

def openFlow (token : Token) (reader : TokenReader) : Except Fault TokenReader := do
  let reader ← reader.noteCandidate
  return { reader with flowLevel := reader.flowLevel + 1 }.allowKey true |>.take 1 token

def closeFlow (token : Token) (reader : TokenReader) : Except Fault TokenReader := do
  let reader ← reader.forgetCandidate
  return { reader with flowLevel := reader.flowLevel - 1 }.allowKey false |>.take 1 token

def flowEntry (reader : TokenReader) : Except Fault TokenReader := do
  return (← (reader.allowKey true).forgetCandidate).take 1 .flowEntry

def blockEntry (reader : TokenReader) : Except Fault TokenReader := do
  let reader ← reader.openBlockHere .blockSequenceStart
  return (← (reader.allowKey true).forgetCandidate).take 1 .blockEntry

def explicitKey (reader : TokenReader) : Except Fault TokenReader := do
  let reader ← reader.openBlockHere .blockMappingStart
  return (← (reader.allowKey !reader.inFlow).forgetCandidate).take 1 .key

def value (reader : TokenReader) : Except Fault TokenReader :=
  match reader.candidate? with
  | some candidate =>
      let reader := reader.dropCandidate.allowKey false
      let (opened, isNew) :=
        if reader.inFlow then (reader, false) else reader.openBlock candidate.column
      return { opened with keys := ⟨candidate.position, isNew⟩ :: opened.keys }.take 1 .value
  | none => do
      let reader ← reader.openBlockHere .blockMappingStart
      return (← (reader.allowKey !reader.inFlow).forgetCandidate).take 1 .value

def name (token : String → Token) (reader : TokenReader) : Except Fault TokenReader := do
  let reader := (← reader.noteCandidate).allowKey false
  let (name, cursor) ← reader.cursor.anchorName
  return { reader with cursor }.emit (token name)

def tag (reader : TokenReader) : Except Fault TokenReader := do
  let reader := (← reader.noteCandidate).allowKey false
  let (tag, cursor) ← reader.cursor.tag
  return { reader with cursor }.emit (.tag tag)

def blockScalar (folds : Bool) (reader : TokenReader) : Except Fault TokenReader := do
  let reader ← (reader.allowKey true).forgetCandidate
  let (content, cursor) ← reader.cursor.block folds reader.indent
  return { reader with cursor }.emit (.scalar content false)

def quotedScalar (reader : TokenReader) : Except Fault TokenReader := do
  let reader := (← reader.noteCandidate).allowKey false
  let (content, cursor) ← reader.cursor.quoted
  return { reader with cursor }.emit (.scalar content false)

/-- A plain scalar. A key may follow it if it ends at the start of a line. -/
def plainScalar (reader : TokenReader) : Except Fault TokenReader := do
  let reader ← reader.noteCandidate
  let (content, cursor, broke) := reader.cursor.plain reader.inFlow reader.indent
  return { reader with cursor, keyAllowed := broke }.emit (.scalar content true)

def startsPlain (reader : TokenReader) : Bool :=
  let character := reader.cursor.current
  (!endsToken character && !"-?:,[]\x7b\x7d#&*!|>'\"%@\x60".toList.contains character) ||
    (!endsToken (reader.cursor.peek 1) &&
      (character = '-' || (!reader.inFlow && (character = '?' || character = ':'))))

/-- Whether an indicator that needs a blank after it stands here; inside brackets a question mark
and a colon need none. -/
def atIndicator (indicator : Char) (reader : TokenReader) : Bool :=
  reader.cursor.current = indicator &&
    ((indicator != '-' && reader.inFlow) || endsToken (reader.cursor.peek 1))

def token (reader : TokenReader) : Except Fault TokenReader :=
  let cursor := reader.cursor
  let atLineStart := cursor.column = 0
  match cursor.current with
  | '%' =>
      if atLineStart then do
        let reader ← reader.endContent
        let (directive, cursor) ← reader.cursor.directive
        return { reader with cursor }.emit (.directive directive)
      else refuse
  | '[' => reader.openFlow .flowSequenceStart
  | ']' => reader.closeFlow .flowSequenceEnd
  | '\x7b' => reader.openFlow .flowMappingStart
  | '\x7d' => reader.closeFlow .flowMappingEnd
  | ',' => reader.flowEntry
  | '*' => reader.name .alias
  | '&' => reader.name .anchor
  | '!' => reader.tag
  | '\'' => reader.quotedScalar
  | '"' => reader.quotedScalar
  | character =>
      if atLineStart && cursor.atMarker "---".toList then do
        return (← reader.endContent).take 3 .documentStart
      else if atLineStart && cursor.atMarker "...".toList then do
        return (← reader.endContent).take 3 .documentEnd
      else if reader.atIndicator '-' then reader.blockEntry
      else if reader.atIndicator '?' then reader.explicitKey
      else if reader.atIndicator ':' then reader.value
      else if character = '|' && !reader.inFlow then reader.blockScalar false
      else if character = '>' && !reader.inFlow then reader.blockScalar true
      else if reader.startsPlain then reader.plainScalar
      else refuse

/-- Read the next token after at most `fuel` line breaks, or all that is to be read at the end of the
text. The second part of the result tells whether there is more. -/
def step (fuel : Nat) (reader : TokenReader) : Except Fault (TokenReader × Bool) := do
  let reader := reader.skipByteOrderMark.skipBlanks fuel
  let reader ← reader.dropStale
  let reader := reader.closeBlocks reader.column
  if reader.cursor.current = endOfText then
    return ((← reader.endContent).emit .streamEnd, false)
  else return (← reader.token, true)

/-- The number of tokens that are known for certain: all before the first place where a key may have
started. -/
def certain (reader : TokenReader) : Nat :=
  let fresh := reader.candidates.filter fun entry => !isStale reader.cursor entry.2
  fresh.foldl (fun least entry => min least entry.2.position) reader.tokens.size

/-- Stop reading. The tokens from the first possible key on are not read either, because they
wait for its colon. -/
def stop (fault : Fault) (reader : TokenReader) : TokenReader :=
  { reader with tokens := (reader.tokens.take reader.certain).push (.unreadable fault) }

/-- Read tokens up to the end of the text, or up to a place that cannot be read. There are fewer than
`fuel` of them. -/
def run : Nat → TokenReader → TokenReader
  | 0, reader => reader.stop malformed
  | fuel + 1, reader =>
      match reader.step (fuel + 1) with
      | .ok (reader, true) => run fuel reader
      | .ok (reader, false) => reader
      | .error fault => reader.stop fault

def keyTokens (key : FoundKey) : List Token :=
  if key.opensMapping then [.blockMappingStart, .key] else [.key]

/-- Put the tokens of keys in their places among the tokens from a position on. The keys come in the
order of their places. -/
def placeFrom (position : Nat) (keys : List FoundKey) : List Token → List Token
  | [] => []
  | token :: tokens =>
      let (here, later) := keys.span (·.position == position)
      here.flatMap keyTokens ++ token :: placeFrom (position + 1) later tokens

def placeKeys (keys : List FoundKey) (tokens : List Token) : List Token :=
  placeFrom 0 (Sequence.sort (fun left right => left.position < right.position) keys) tokens

end TokenReader

def isReadable (character : Char) : Bool :=
  let point := character.toNat
  character = '\t' || character = '\n' || character = '\r' || (0x20 ≤ point && point ≤ 0x7e) ||
    point = 0x85 || (0xa0 ≤ point && point ≤ 0xfffd) || 0x10000 ≤ point

def tokens (text : String) : List Token :=
  let characters := text.toList
  if characters.all isReadable then
    let reader := (TokenReader.start characters).run (characters.length + 2)
    TokenReader.placeKeys reader.keys.reverse reader.tokens.toList
  else [.unreadable malformed]

example : tokens "a: 1" = [.blockMappingStart, .key, .scalar "a" true, .value,
    .scalar "1" true, .blockEnd, .streamEnd] := by decide +kernel

end ScreenFlow.Yaml
