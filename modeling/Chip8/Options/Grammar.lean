/-!
# The grammar of a command line

A command line is a list of arguments, read from left to right against a table of options.

* `--name` and `--name=value` are long options; any number of further dashes in front is ignored.
* `-xyz` is a cluster of short options; one that takes a value takes the rest of the cluster,
  without the equals signs in front of it.
* An option still without its value takes the next argument, unless that is an option again; a
  single dash is no option. An option that got no value is kept as such.
* `--` ends the options.
* All else is an operand. There is room for a fixed number of them.

`scan` cuts a command line into `Item`s, or stops at the first argument that has no place.
-/

namespace Chip8.Options

/-- An option of a table. -/
structure Entry where
  /-- the long name -/
  name : String
  /-- the letter of the short form, if there is one -/
  letter : Option Char
  /-- it is followed by a value -/
  takesValue : Bool
  /-- it may be given more than once -/
  repeats : Bool
deriving DecidableEq, Repr

/-- A piece of a command line. -/
inductive Item
  /-- an option without a value, because it takes none or because it got none -/
  | bare (entry : Entry)
  /-- an option with its value -/
  | valued (entry : Entry) (value : String)
  /-- an operand -/
  | operand (text : String)
deriving DecidableEq, Repr

namespace Item

/-- The option of a piece. -/
def option? : Item → Option Entry
  | bare e | valued e _ => some e
  | operand _ => none

end Item

/-- Why a command line was not read to its end. -/
inductive Stop
  /-- it does not fit the table -/
  | usage
  /-- it asks for help or for the version -/
  | help
deriving DecidableEq, Repr

/-- The outcome of reading a name: an option, or why there is none. -/
def findName (table : List Entry) (name : String) : Except Stop Entry :=
  match table.find? (·.name == name) with
  | some e => .ok e
  | none => .error (if name == "help" || name == "version" then .help else .usage)

/-- The outcome of reading a letter: an option, or why there is none. -/
def findLetter (table : List Entry) (letter : Char) : Except Stop Entry :=
  match table.find? (·.letter == some letter) with
  | some e => .ok e
  | none => .error (if letter == 'h' || letter == 'V' then .help else .usage)

/-- A value without the equals signs in front of it. -/
def bareValue (value : List Char) : String := String.ofList (value.dropWhile (· == '='))

/-- What a long option or a cluster adds to the items: complete ones, and perhaps an option that
still waits for its value. -/
structure Piece where
  /-- the complete items in order -/
  items : List Item
  /-- the option that waits for its value -/
  waiting : Option Entry

/-- An option without a value behind it. -/
def Piece.ofEntry (e : Entry) : Piece :=
  if e.takesValue then ⟨[], some e⟩ else ⟨[.bare e], none⟩

/-- Read a long option, given as the characters behind its dashes. A value is dropped if the
option takes none. -/
def scanLong (table : List Entry) (body : List Char) : Except Stop Piece := do
  let name := body.takeWhile (· != '=')
  let e ← findName table (String.ofList name)
  match body.drop name.length with
  | [] => return .ofEntry e
  | value => return if e.takesValue then ⟨[.valued e (bareValue value)], none⟩ else .ofEntry e

/-- Read a cluster of short options, given as the characters behind its dash. -/
def scanCluster (table : List Entry) : List Char → Except Stop Piece
  | [] => return ⟨[], none⟩
  | c :: rest => do
    let e ← findLetter table c
    if e.takesValue then
      return if rest.isEmpty then ⟨[], some e⟩ else ⟨[.valued e (bareValue rest)], none⟩
    else
      let others ← scanCluster table rest
      return ⟨.bare e :: others.items, others.waiting⟩

/-- The item of an option that got no value. -/
def unmet (waiting : Option Entry) : List Item := (waiting.map Item.bare).toList

/-- The arguments behind `--`, with room for some operands. -/
def scanOperands : (room : Nat) → List String → Except Stop (List Item)
  | _, [] => return []
  | 0, _ :: _ => throw .usage
  | room + 1, arg :: rest => return .operand arg :: (← scanOperands room rest)

/-- Cut a command line into items, with room for some operands, while an option may wait for its
value. -/
def scan (table : List Entry) (room : Nat) (waiting : Option Entry) :
    List String → Except Stop (List Item)
  | [] => return unmet waiting
  | arg :: rest =>
    match arg.toList with
    | ['-', '-'] => return unmet waiting ++ (← scanOperands room rest)
    | '-' :: '-' :: body => do
      let piece ← scanLong table (body.dropWhile (· == '-'))
      return unmet waiting ++ piece.items ++ (← scan table room piece.waiting rest)
    | '-' :: c :: body => do
      let piece ← scanCluster table (c :: body)
      return unmet waiting ++ piece.items ++ (← scan table room piece.waiting rest)
    | _ =>
      match waiting, room with
      | some e, _ => return .valued e arg :: (← scan table room none rest)
      | none, 0 => throw .usage
      | none, room + 1 => return .operand arg :: (← scan table room none rest)

/-- An option that may be given only once was given at most once. -/
def givenOnce (table : List Entry) (items : List Item) : Bool :=
  table.all fun e => e.repeats || (items.filter (·.option? == some e)).length ≤ 1

/-- Read a decimal number below `bound`. A plus sign in front is allowed. -/
def readNat (bound : Nat) (text : String) : Option Nat :=
  let digits := match text.toList with
    | '+' :: rest => rest
    | all => all
  if digits.isEmpty || !digits.all Char.isDigit then none
  else
    let value := digits.foldl (fun n c => 10 * n + (c.toNat - 48)) 0
    if value < bound then some value else none

end Chip8.Options
