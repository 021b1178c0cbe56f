import Mosaic.Text.Basic

/-!
# Files of variables

A file of variables holds one assignment a line: a name, an equals sign, and a value that is plain
or quoted; a `#` starts a comment, and a word `export` in front is skipped. A name without an equals
sign is defined without a value, and a line that is none of this is skipped. A value may refer to
earlier variables by `${NAME}` or `${NAME:-fallback}`. A byte order mark at the start does not
count.
-/

namespace Mosaic.EnvFile

/-- A variable, with its value if one is assigned. -/
abbrev Binding := String × Option String

/-- A blank inside a line. -/
def isGap (c : Char) : Bool := Text.isBlank c && c ≠ '\n'

/-- A character of an unquoted name. -/
def isNameChar (c : Char) : Bool := !Text.isBlank c && c ≠ '=' && c ≠ '#'

/-- What a backslash and this character stand for between double quotes. -/
def doubleEscape? : Char → Option Char
  | '\\' => some '\\'
  | '\'' => some '\''
  | '"' => some '"'
  | 'a' => some '\x07'
  | 'b' => some '\x08'
  | 'f' => some '\x0c'
  | 'n' => some '\n'
  | 'r' => some '\r'
  | 't' => some '\t'
  | 'v' => some '\x0b'
  | _ => none

/-- What a backslash and this character stand for between single quotes. -/
def singleEscape? : Char → Option Char
  | '\\' => some '\\'
  | '\'' => some '\''
  | _ => none

/-- The text up to the closing quote, raw, and what follows the quote. A quote behind a backslash
closes the text only where no other quote does. -/
def quoted? (mark : Char) : List Char → Option (List Char × List Char)
  | [] => none
  | '\\' :: c :: s =>
    if c = mark then
      some (((quoted? mark s).map fun (t, r) => ('\\' :: c :: t, r)).getD (['\\'], s))
    else (quoted? mark (c :: s)).map fun (t, r) => ('\\' :: t, r)
  | c :: s => if c = mark then some ([], s) else (quoted? mark s).map fun (t, r) => (c :: t, r)

/-- Replace escapes by what they stand for. -/
def unescape (escape? : Char → Option Char) : List Char → List Char
  | '\\' :: c :: s =>
    match escape? c with
    | some d => d :: unescape escape? s
    | none => '\\' :: unescape escape? (c :: s)
  | c :: s => c :: unescape escape? s
  | [] => []

/-- Cut at the blanks before the first `#` that follows a blank. -/
def cutComment : List Char → List Char
  | [] => []
  | c :: s =>
    if Text.isBlank c && (s.dropWhile Text.isBlank).head? = some '#' then []
    else c :: cutComment s

/-- Skip the blanks of a line. -/
def skipGap (s : List Char) : List Char := s.dropWhile isGap

/-- Read the value behind an equals sign; a failure gives what is left of the file. A comment may
stand in place of the value, if a blank is before it. -/
def value (s : List Char) : Except (List Char) (List Char × List Char) :=
  let isSpaced := s.head?.any isGap
  let s := skipGap s
  if isSpaced && s.head? = some '#' then .ok ([], s)
  else match s with
  | '\'' :: t =>
    (quoted? '\'' t).elim (.error s) fun (v, rest) => .ok (unescape singleEscape? v, rest)
  | '"' :: t =>
    (quoted? '"' t).elim (.error s) fun (v, rest) => .ok (unescape doubleEscape? v, rest)
  | _ => .ok (Text.trimEnd (cutComment (s.takeWhile (· ≠ '\n'))), s.dropWhile (· ≠ '\n'))

/-- Skip the word `export` and the blanks after it. -/
def skipExport (s : List Char) : List Char :=
  match s with
  | 'e' :: 'x' :: 'p' :: 'o' :: 'r' :: 't' :: t => if t.head?.any isGap then skipGap t else s
  | _ => s

/-- Read a name; a failure gives what is left of the file. -/
def name (s : List Char) : Except (List Char) (List Char × List Char) :=
  match s with
  | '\'' :: t =>
    let key := t.takeWhile (· ≠ '\'')
    match t.dropWhile (· ≠ '\'') with
    | _ :: rest => if key.isEmpty then .error s else .ok (key, rest)
    | [] => .error s
  | _ =>
    let key := s.takeWhile isNameChar
    if key.isEmpty then .error s else .ok (key, s.dropWhile isNameChar)

/-- Skip a comment and the end of the line; a failure gives what is left of the file. -/
def endLine (s : List Char) : Except (List Char) (List Char) :=
  let comment := skipGap s
  let s := if comment.head? = some '#' then comment.dropWhile (· ≠ '\n') else s
  match skipGap s with
  | [] => .ok []
  | '\n' :: rest => .ok rest
  | _ => .error s

/-- Read the statement that `s` starts with: a binding or a comment, and the rest of the file. A
failure gives what is left of the file where it occurs. -/
def statement (s : List Char) : Except (List Char) (Option Binding × List Char) := do
  let s := skipExport s
  if s.head? = some '#' then
    return (none, ← endLine s)
  else
    let (key, s) ← name s
    match skipGap s with
    | '=' :: s =>
      let (v, s) ← value s
      return (some (String.ofList key, some (String.ofList v)), ← endLine s)
    | s => return (some (String.ofList key, none), ← endLine s)

/-- Read at most `fuel` statements. -/
def statements : (fuel : Nat) → List Char → List Binding
  | 0, _ => []
  | fuel + 1, s =>
    match s.dropWhile Text.isBlank with
    | [] => []
    | s =>
      match statement s with
      | .ok (binding, rest) => binding.toList ++ statements fuel rest
      | .error rest => statements fuel ((rest.dropWhile (· ≠ '\n')).drop 1)

/-- Each name once, where it first appears, with the value it is given last. -/
def merge (bindings : List Binding) : List Binding :=
  bindings.foldl (fun merged (key, v) =>
    if merged.any (·.1 = key) then merged.map fun b => if b.1 = key then (key, v) else b
    else merged ++ [(key, v)]) []

/-- Read a reference after its `${`: the name, the fallback, and what follows the closing brace. -/
def reference? (s : List Char) : Option (List Char × List Char × List Char) :=
  let key := s.takeWhile fun c => c ≠ '\x7d' && c ≠ ':'
  match s.dropWhile fun c => c ≠ '\x7d' && c ≠ ':' with
  | ':' :: '-' :: t =>
    match t.dropWhile (· ≠ '\x7d') with
    | _ :: rest => some (key, t.takeWhile (· ≠ '\x7d'), rest)
    | [] => none
  | '\x7d' :: rest => some (key, [], rest)
  | _ => none

/-- Replace references, at most `fuel` characters and references on. -/
def expand (lookup : String → Option String) : (fuel : Nat) → List Char → List Char
  | 0, s => s
  | _, [] => []
  | fuel + 1, '$' :: '\x7b' :: s =>
    match reference? s with
    | some (key, fallback, rest) =>
      let v := (lookup (String.ofList key)).map String.toList
      v.getD fallback ++ expand lookup fuel rest
    | none => '$' :: expand lookup fuel ('\x7b' :: s)
  | fuel + 1, c :: s => c :: expand lookup fuel s

/-- Replace the references in every value by the variables before it in the file, or else in the
surrounding environment. -/
def resolve (environment : List (String × String)) (bindings : List Binding) : List Binding :=
  bindings.foldl (fun known (key, v) =>
    let lookup := fun name =>
      match known.reverse.lookup name with
      | some v => some (v.getD "")
      | none => environment.lookup name
    known ++ [(key, v.map fun text =>
      String.ofList (expand lookup (text.length + 1) text.toList))]) []

/-- A mark that may stand at the start of a file and is no part of it. -/
def byteOrderMark : Char := '\ufeff'

/-- The variables that a file defines, in order. -/
def parse (environment : List (String × String)) (text : String) : List Binding :=
  let s := text.toList
  let s := Text.unifyBreaks (if s.head? = some byteOrderMark then s.tail else s)
  merge (resolve environment (statements (s.length + 1) s))

end Mosaic.EnvFile
