import NamespaceLogging.Record.Basic

/-!
# Layouts

A layout turns a record into a line.  It is written as a pattern: text with tokens in braces,
where a doubled brace stands for the brace itself.

## Main definitions

* `Token`, `LayoutPiece`, `Layout`: what a layout is made of.
* `Layout.read`: a pattern read from left to right into characters and tokens.
* `Layout.parse`, `Layout.withTimeFormat`, `Layout.withFrameCap`: the checked ways to make a layout.
* `Layout.line`: the line of a record.
* `Layout.render`: the line of a record whose message can be written, if the layout shows it.  A
  layout with the token for the message leaves the record's message rendered.
-/

set_option autoImplicit false

namespace NamespaceLogging

open Text

/-- The parts of a record that a layout can show. -/
inductive Token where
  | level | message | time | package | className | method | file | line | stack | stackTop | cause
  | thread | namespaceName
deriving DecidableEq, Repr

namespace Token

/-- Every token. -/
def all : List Token :=
  [level, message, time, package, className, method, file, line, stack, stackTop, cause, thread,
   namespaceName]

/-- The name of a token in a pattern. -/
def name : Token → String
  | level => "level"
  | message => "message"
  | time => "time"
  | package => "package"
  | className => "class"
  | method => "method"
  | file => "file"
  | line => "line"
  | stack => "stack"
  | stackTop => "stacktop"
  | cause => "cause"
  | thread => "thread"
  | namespaceName => "namespace"

/-- The token with a name. -/
def ofName? (name : String) : Option Token := all.find? fun token => token.name == name

end Token

/-- A piece of a layout. -/
inductive LayoutPiece where
  | text (cs : List Char)
  | token (token : Token)
deriving DecidableEq, Repr

/-- A parsed layout. -/
structure Layout where
  pieces : List LayoutPiece
  timeFormat : String
  /-- The number of frames that are listed for each cause. -/
  frameCap : Nat
deriving DecidableEq, Repr

namespace Layout

/-- The format of the time unless another one is chosen. -/
def defaultTimeFormat : String := "%Y-%m-%d %H:%M:%S%.3f"

/-- The pattern that is used unless another one is chosen. -/
def defaultPattern : String :=
  "\x7btime\x7d \x7blevel\x7d [\x7bthread\x7d] \x7bclass\x7d.\x7bmethod\x7d" ++
    "(\x7bfile\x7d:\x7bline\x7d) \x7bmessage\x7d\x7bcause\x7d"

/-! ## Reading a pattern -/

/-- What a pattern is read into: a character that stands for itself, or a token. -/
inductive Item where
  | char (c : Char)
  | token (token : Token)
deriving DecidableEq, Repr

/-- What stands behind the first separator is shorter than the text. -/
theorem length_splitFirst?_snd_lt {sep : Char} {cs before after : List Char}
    (h : splitFirst? [sep] cs = some (before, after)) : after.length < cs.length := by
  induction cs generalizing before after with
  | nil => simp [splitFirst?] at h
  | cons c cs ih =>
    simp only [splitFirst?] at h
    split at h
    · rename_i rest heq
      simp only [stripPrefix?] at heq
      split at heq
      · simp only [Option.some.injEq] at heq h
        simp only [Prod.mk.injEq] at h
        rw [← h.2, ← heq]
        simp
      · simp at heq
    · rw [Option.map_eq_some_iff] at h
      obtain ⟨⟨b, a⟩, hs, hp⟩ := h
      cases hp
      exact Nat.lt_succ_of_lt (ih hs)

/-- The items of the part of a pattern that begins at a byte offset.  An error names the first
opening brace at which the pattern cannot be read. -/
def read (offset : Nat) : List Char → Except ConfigError (List Item)
  | [] => .ok []
  | '{' :: '{' :: rest => do return .char '{' :: (← read (offset + 2) rest)
  | '}' :: '}' :: rest => do return .char '}' :: (← read (offset + 2) rest)
  | '{' :: rest =>
    match h : splitFirst? ['}'] rest with
    | none => .error (.unterminatedToken offset)
    | some (body, after) =>
      have := length_splitFirst?_snd_lt h
      let name := String.ofList (trim body)
      match Token.ofName? name with
      | none => .error (.unknownToken name)
      | some token => do
        return .token token :: (← read (offset + 2 + (String.ofList body).utf8ByteSize) after)
  | c :: rest => do return .char c :: (← read (offset + c.utf8Size) rest)
  termination_by cs => cs.length

/-- The items with neighbouring characters joined to texts. -/
def join : List Item → List LayoutPiece
  | [] => []
  | .token token :: rest => .token token :: join rest
  | .char c :: rest =>
    match join rest with
    | .text cs :: pieces => .text (c :: cs) :: pieces
    | pieces => .text [c] :: pieces

/-- The layout of a pattern. -/
def parse (pattern : String) : Except ConfigError Layout := do
  let items ← read 0 pattern.toList
  return { pieces := join items
           timeFormat := defaultTimeFormat
           frameCap := Cause.defaultFrameCap }

/-- The layout that is used unless a pattern is given. -/
def default : Layout where
  pieces :=
    [.token .time, .text [' '], .token .level, .text [' ', '['], .token .thread, .text [']', ' '],
     .token .className, .text ['.'], .token .method, .text ['('], .token .file, .text [':'],
     .token .line, .text [')', ' '], .token .message, .token .cause]
  timeFormat := defaultTimeFormat
  frameCap := Cause.defaultFrameCap

/-- The layout with another format of the time. -/
def withTimeFormat (format : String) (layout : Layout) : Except ConfigError Layout :=
  if TimeFormat.isValid format then .ok { layout with timeFormat := format }
  else .error (.invalidTimeFormat format)

/-- The layout with another number of frames per cause. -/
def withFrameCap (cap : Nat) (layout : Layout) : Except ConfigError Layout :=
  if cap = 0 then .error .invalidFrameCap else .ok { layout with frameCap := cap }

/-- The layout of a pattern, or the default one, with the given format and frame cap.  The pattern
is checked first, then the format, then the cap. -/
def make (pattern timeFormat : Option String) (cap : Option Nat) : Except ConfigError Layout := do
  let layout ← match pattern with
    | some pattern => parse pattern
    | none => pure default
  let layout ← match timeFormat with
    | some format => layout.withTimeFormat format
    | none => pure layout
  match cap with
  | some cap => layout.withFrameCap cap
  | none => return layout

/-! ## Rendering -/

/-- The text of a token. -/
def tokenText (layout : Layout) (r : Record) : Token → String
  | .level => r.level.name
  | .message => r.message
  | .time => TimeFormat.render layout.timeFormat r.time
  | .package => r.package
  | .className => r.className
  | .method => r.method
  | .file => r.fileName
  | .line => toString r.line
  | .stack => String.join (r.stack.map fun f => "\n\tat " ++ f.display)
  | .stackTop =>
    match r.location with
    | some frame => frame.display
    | none =>
      r.site.namespaceName ++ " (" ++ r.site.file ++ ":" ++ toString r.site.line ++ ")"
  | .cause => (r.cause.map (Cause.render layout.frameCap)).getD ""
  | .thread => r.thread
  | .namespaceName => r.namespaceName

/-- The text of a piece. -/
def pieceText (layout : Layout) (r : Record) : LayoutPiece → String
  | .text cs => String.ofList cs
  | .token token => layout.tokenText r token

/-- The line of a record. -/
def line (layout : Layout) (r : Record) : String :=
  String.join (layout.pieces.map (layout.pieceText r))

/-- Whether the layout shows the message. -/
def showsMessage (layout : Layout) : Bool := layout.pieces.contains (.token .message)

/-- The line of a record, and the record after its parts were asked for.  It fails only if the
layout shows the message and the message cannot be written. -/
def render (layout : Layout) (r : Record) : Except RenderFault (String × Record) := do
  let r ← if layout.showsMessage then r.render else pure r
  return (layout.line r, r)

end Layout

end NamespaceLogging
