import Abacus.Template.Conversion

/-!
# Expansion of templates

The description of `--serve` is a template in which the configured host may hold directives of its
own (specification §14). A template is a text with directives, which are replaced by values. A
directive starts with a percent sign. Then may come the name of its value in parentheses, flags, a
width, a precision behind a point, and a size, which says nothing; last comes the letter of the
conversion. Two percent signs stand for one. The values are the members of an object. Only the first
directive can do without a name and takes the whole object then.

- `Template.readName`, `Template.readWidth`, `Template.readPrecision`: the parts of a directive.
- `Template.readDirective`: the text of a directive.
- `Template.expand`: a template with its directives replaced.
-/

namespace Abacus

/-- What can be wrong with a template. -/
inductive TemplateError where
  | openName
  | incomplete
  | widthTooBig
  | precisionTooBig
  /-- A character at some place of the template that stands for no conversion. -/
  | unknownConversion (c : Char) (index : Nat)
  | unknownName (name : String)
  /-- A directive for which there is no value, or none that it takes. -/
  | unfitValue
  /-- A directive whose text would be too long. -/
  | tooLong
deriving DecidableEq, Repr

/-- The message of an error. -/
def TemplateError.message : TemplateError → String
  | .openName => "incomplete format key"
  | .incomplete => "incomplete format"
  | .widthTooBig => "width too big"
  | .precisionTooBig => "precision too big"
  | .unknownConversion c index =>
    let shown := if 31 ≤ c.toNat && c.toNat ≤ 126 then c else '?'
    "unsupported format character '" ++ String.singleton shown ++ "' (0x"
      ++ String.ofList (Nat.toDigits 16 c.toNat) ++ ") at index " ++ toString index
  | .unknownName name => "unknown name: " ++ name
  | .unfitValue => "a directive does not fit its value"
  | .tooLong => "the text of a directive is too long"

namespace Template

/-! ## Parts of directives -/

/-- What remains to be read, with the value that the next conversion takes. -/
structure Unread where
  value : Option Json
  rest : List Char

/-- Reads a name up to the parenthesis that closes it. `depth` parentheses within it are open. -/
def nameChars? (depth : Nat) : List Char → Option (List Char × List Char)
  | [] => none
  | ')' :: cs =>
    match depth with
    | 0 => some ([], cs)
    | depth + 1 => (nameChars? depth cs).map fun (name, rest) => (')' :: name, rest)
  | c :: cs =>
    let depth := if c = '(' then depth + 1 else depth
    (nameChars? depth cs).map fun (name, rest) => (c :: name, rest)

/-- Reads a name in parentheses, if there is one, and looks its value up. -/
def readName (values : Json) (p : Unread) : Except TemplateError Unread :=
  match p.rest with
  | '(' :: cs =>
    match nameChars? 0 cs with
    | none => .error .openName
    | some (name, rest) =>
      match values.get? (String.ofList name) with
      | none => .error (.unknownName (String.ofList name))
      | some v => .ok { value := some v, rest }
  | _ => .ok p

/-- Whether a character is a flag. -/
def isFlag (c : Char) : Bool :=
  ['-', '+', ' ', '#', '0'].contains c

/-- Reads a number of at most `bound`, or none, which counts as zero. A star stands for the value of
the directive, which it takes. -/
def readSize (bound : Nat) (tooBig : TemplateError) (p : Unread) :
    Except TemplateError (Nat × Unread) :=
  match p.rest with
  | '*' :: rest =>
    match p.value.bind Conversion.integer? with
    | some n => .ok (n.natAbs, { value := none, rest })
    | none => .error .unfitValue
  | cs =>
    let n := Decimal.digitsValue (cs.takeWhile Char.isDigit)
    if bound < n then .error tooBig
    else .ok (n, { p with rest := cs.dropWhile Char.isDigit })

/-- Reads a width. -/
def readWidth (p : Unread) : Except TemplateError (Nat × Unread) :=
  readSize 0x7fffffffffffffff .widthTooBig p

/-- Reads a precision. -/
def readPrecision (p : Unread) : Except TemplateError (Option Nat × Unread) :=
  match p.rest with
  | '.' :: rest =>
    (readSize 0x7fffffff .precisionTooBig { p with rest }).map fun (n, p) => (some n, p)
  | _ => .ok (none, p)

/-- Passes over a size. -/
def skipSize : List Char → List Char
  | 'h' :: cs => cs
  | 'l' :: cs => cs
  | 'L' :: cs => cs
  | cs => cs

/-! ## Directives -/

/-- The greatest number of characters that a directive may ask for. -/
def greatestExtent : Nat := 1000000

/-- What the conversion of a letter makes of a value. `index` is the place of the letter. -/
def convert (l : Layout) (index : Nat) (letter : Char) (value : Option Json) :
    Except TemplateError (List Char) :=
  match value, Conversion.ofChar? letter with
  | none, _ => .error .unfitValue
  | some _, none => .error (.unknownConversion letter index)
  | some v, some conversion =>
    if greatestExtent < conversion.extent l then .error .tooLong
    else match conversion.write? l v with
      | some cs => .ok cs
      | none => .error .unfitValue

/-- Reads a directive behind its percent sign and gives its text. `size` is the length of the
template. -/
def readDirective (values : Json) (size : Nat) (p : Unread) :
    Except TemplateError (List Char × Unread) := do
  let p ← readName values p
  let flags := p.rest.takeWhile isFlag
  let (width, p) ← readWidth { p with rest := p.rest.dropWhile isFlag }
  let (precision, p) ← readPrecision p
  match skipSize p.rest with
  | [] => throw .incomplete
  | letter :: rest =>
    let layout : Layout :=
      { leftAligned := flags.contains '-', plus := flags.contains '+', space := flags.contains ' ',
        explicit := flags.contains '#', zeros := flags.contains '0', width, precision }
    let text ← convert layout (size - rest.length - 1) letter p.value
    return (text, { value := none, rest })

/-- Replaces the directives in what remains of a template. Each step takes a character at least, and
`fuel` bounds the number of steps. -/
def expandFrom (values : Json) (size : Nat) : Nat → Unread → Except TemplateError (List Char)
  | 0, _ => .ok []
  | fuel + 1, p =>
    match p.rest with
    | [] => .ok []
    | '%' :: '%' :: rest => do return '%' :: (← expandFrom values size fuel { p with rest })
    | '%' :: rest => do
      let (text, p) ← readDirective values size { p with rest }
      return text ++ (← expandFrom values size fuel p)
    | c :: rest => do return c :: (← expandFrom values size fuel { p with rest })

/-- Replaces the directives of a template by the members of an object. -/
def expand (values : Json) (template : String) : Except TemplateError String :=
  let cs := template.toList
  (expandFrom values cs.length cs.length { value := some values, rest := cs }).map String.ofList

end Template
end Abacus
