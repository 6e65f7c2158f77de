import BattleMap.Decimal.Reading
import BattleMap.Text.Quoted

namespace BattleMap

/-!
# Command-line options

Options have a short name, a long one, or both.  A long name may be shortened as
long as it stays unambiguous; a value follows as the next argument, behind an
equals sign, or directly behind a short name; short options without a value may
share one dash, also behind an equals sign.  An argument that starts with a dash
is an option, unless it is a lone dash, looks like a negative number, or is
unknown and holds a blank.  Behind two dashes nothing is an option any more, and
as the value of an option two dashes stand for nothing at all.

All arguments are classified first, and then carried out from left to right, so
an ambiguous name is reported before anything else.  What is no option and no
value is collected, and reported last.
-/

inductive Flag where
  | help
  | file
  | dimension
  | png
  | json
  | noGrid
  | verbose
deriving DecidableEq, Repr

/-- The size of a cell that the arguments ask for. -/
inductive RequestedSize where
  /-- Nothing is said about it. -/
  | usual
  /-- A number of pixels. -/
  | pixels (x : Float)
  /-- The option is there, but two dashes stand for its value. -/
  | blank
deriving Repr

/-- What the arguments ask for. -/
structure Options where
  file : Option String
  dimension : RequestedSize
  png : Option String
  json : Option String
  noGrid : Bool
  verbose : Bool
deriving Repr

/-- Why the arguments are not carried out. -/
inductive Refusal where
  /-- The explanation of the options is asked for. -/
  | helpWanted
  /-- Something is wrong with the arguments. -/
  | misuse (message : String)
deriving DecidableEq, Repr

namespace Flag

/-- All names with their options, in the order in which they are listed. -/
def names : List (String × Flag) :=
  [("-h", .help), ("--help", .help), ("-f", .file), ("--file", .file), ("-d", .dimension),
    ("--dimension", .dimension), ("--png", .png), ("--json", .json), ("--no-grid", .noGrid),
    ("-v", .verbose), ("--verbose", .verbose)]

/-- Whether an option needs a value. -/
def takesValue : Flag -> Bool
  | .file | .dimension | .png | .json => true
  | .help | .noGrid | .verbose => false

/-- The names of an option, as complaints show them. -/
def title (flag : Flag) : String :=
  String.intercalate "/" ((names.filter fun name => name.2 = flag).map (·.1))

/-- The option with exactly this name. -/
def named? (name : List Char) : Option Flag :=
  (names.find? fun entry => entry.1.toList = name).map (·.2)

def misuse (flag : Flag) (complaint : String) : Refusal :=
  .misuse ("argument " ++ flag.title ++ ": " ++ complaint)

/-- The complaint about a value for an option that takes none. -/
def ignoredValue (flag : Flag) (value : List Char) : Refusal :=
  flag.misuse ("ignored explicit argument " ++ Text.quoted value)

end Flag

/-- What an argument says beside the name of its option. -/
inductive Attachment where
  /-- Nothing. -/
  | nothing
  /-- A text behind a long name and an equals sign. -/
  | behindLong (text : List Char)
  /-- A text behind a short name, with or without an equals sign. -/
  | behindShort (text : List Char)
deriving DecidableEq, Repr

/-- What an argument is, seen by itself. -/
inductive Role where
  | separator
  | operand
  | unknown
  | option (flag : Flag) (attachment : Attachment)
deriving DecidableEq, Repr

namespace Role

/-- Whether every character is a decimal digit of some script. -/
def allDigits (text : List Char) : Bool :=
  text.all fun c => (Text.digitValue? c).isSome

/-- Whether an argument looks like a negative decimal without an exponent.  One
line feed at its end does not matter. -/
def isNegativeNumber (argument : List Char) : Bool :=
  let text := if argument.getLast? = some '\n' then argument.dropLast else argument
  match text with
  | '-' :: rest =>
      let fraction := (rest.dropWhile (· ≠ '.')).drop 1
      (!rest.isEmpty && allDigits rest) ||
        (rest.contains '.' && allDigits (rest.takeWhile (· ≠ '.')) && !fraction.isEmpty &&
          allDigits fraction)
  | _ => false

/-- The part of an argument before its first equals sign, and what stands behind
that sign. -/
def splitAssigned (argument : List Char) : List Char × Option (List Char) :=
  match argument.dropWhile (· ≠ '=') with
  | [] => (argument, none)
  | _ :: text => (argument.takeWhile (· ≠ '='), some text)

def isLong (argument : List Char) : Bool :=
  argument.take 2 = ['-', '-']

/-- The options that an argument starting with two dashes may abbreviate. -/
def longMatches (argument : List Char) : List (String × Role) :=
  let (start, assigned) := splitAssigned argument
  let attachment := match assigned with
    | none => .nothing
    | some text => .behindLong text
  (Flag.names.filter fun name => start.isPrefixOf name.1.toList).map fun name =>
    (name.1, .option name.2 attachment)

/-- The short option that an argument with one dash starts with. -/
def shortMatches (argument : List Char) : List (String × Role) :=
  (Flag.names.filter fun name => name.1.toList = argument.take 2).map fun name =>
    (name.1, .option name.2 (.behindShort (argument.drop 2)))

/-- What an argument is that starts with a dash and is longer than that, but is
not the name of an option. -/
def ofDashed (argument : List Char) : Except Refusal Role :=
  let found := if isLong argument then longMatches argument else shortMatches argument
  match found with
  | [only] => .ok only.2
  | [] =>
      if isNegativeNumber argument || argument.contains ' ' then .ok .operand else .ok .unknown
  | several =>
      .error (.misuse ("ambiguous option: " ++ String.ofList argument ++ " could match " ++
        String.intercalate ", " (several.map (·.1))))

/-- What an argument is, before two dashes have been met. -/
def ofArgument (argument : List Char) : Except Refusal Role :=
  if argument = ['-', '-'] then .ok .separator
  else if argument.head? ≠ some '-' then .ok .operand
  else
    match Flag.named? argument with
    | some flag => .ok (.option flag .nothing)
    | none =>
        if argument.length = 1 then .ok .operand
        else
          let (name, assigned) := splitAssigned argument
          match assigned, Flag.named? name with
          | some text, some flag =>
              .ok (.option flag (if isLong argument then .behindLong text else .behindShort text))
          | _, _ => ofDashed argument

def classify : List (List Char) -> Except Refusal (List (List Char × Role))
  | [] => .ok []
  | argument :: rest => do
      match ← ofArgument argument with
      | .separator => return (argument, .separator) :: rest.map fun other => (other, .operand)
      | role => return (argument, role) :: (← classify rest)

end Role

/-- The options that one argument gives, with their values.  The last one may
still wait for the next argument. -/
structure Bundle where
  settled : List (Flag × List Char)
  waiting : Option Flag
deriving Repr

namespace Bundle

/-- An option that has all it needs, unless it waits for a value. -/
def alone (flag : Flag) : Bundle :=
  if flag.takesValue then ⟨[], some flag⟩ else ⟨[(flag, [])], none⟩

/-- Put an option in front of a bundle. -/
def after (flag : Flag) (bundle : Bundle) : Bundle :=
  { bundle with settled := (flag, []) :: bundle.settled }

/-- The options in a text behind the short name of an option.  The text is the
value, if the option takes one; otherwise its first character must be the short
name of another option, behind which the rest of the text stands. -/
def ofShort (flag : Flag) : (text : List Char) -> Except Refusal Bundle
  | [] => if flag.takesValue then .ok ⟨[(flag, [])], none⟩ else .error (flag.ignoredValue [])
  | letter :: rest =>
      if flag.takesValue then .ok ⟨[(flag, letter :: rest)], none⟩
      else
        match Flag.named? ['-', letter], rest with
        | none, _ => .error (flag.ignoredValue (letter :: rest))
        | some next, [] => .ok ((alone next).after flag)
        | some next, more => do return (← ofShort next more).after flag

/-- The options that an argument gives. -/
def ofOption (flag : Flag) (attachment : Attachment) : Except Refusal Bundle :=
  match attachment with
  | .nothing => .ok (alone flag)
  | .behindShort text => ofShort flag text
  | .behindLong value =>
      if flag.takesValue then .ok ⟨[(flag, value)], none⟩ else .error (flag.ignoredValue value)

end Bundle

namespace Options

/-- Nothing is asked for. -/
def initial : Options := ⟨none, .usual, none, none, false, false⟩

/-- The value that stands for nothing. -/
def blankValue : List Char := ['-', '-']

/-- A path as it is given with its option.  Two dashes count as an empty path. -/
def readPath (text : List Char) : String :=
  if text = blankValue then "" else String.ofList text

/-- The size of a cell as it is given with its option. -/
def readDimension (text : List Char) : Except Refusal Float :=
  match Decimal.FreeForm.read? text with
  | none => .error (Flag.dimension.misuse ("invalid dimension: " ++ Text.quoted text))
  | some x =>
      if x <= 0 then
        .error (Flag.dimension.misuse ("dimension must be positive: " ++ Text.quoted text))
      else .ok x

/-- The size of a cell that an option asks for. -/
def readSize (text : List Char) : Except Refusal RequestedSize :=
  if text = blankValue then .ok .blank else do return .pixels (← readDimension text)

def set (options : Options) (flag : Flag) (value : List Char) : Except Refusal Options :=
  match flag with
  | .help => .error .helpWanted
  | .file => .ok { options with file := some (readPath value) }
  | .dimension => do return { options with dimension := ← readSize value }
  | .png => .ok { options with png := some (readPath value) }
  | .json => .ok { options with json := some (readPath value) }
  | .noGrid => .ok { options with noGrid := true }
  | .verbose => .ok { options with verbose := true }

def setAll (options : Options) (settled : List (Flag × List Char)) : Except Refusal Options :=
  settled.foldlM (fun done entry => done.set entry.1 entry.2) options

/-- Carry out the arguments from left to right; `extras` are those that are
neither options nor values. -/
def carryOut (options : Options) (extras : List (List Char)) :
    List (List Char × Role) -> Except Refusal (Options × List (List Char))
  | [] => .ok (options, extras)
  | (_, .option flag attachment) :: rest => do
      let bundle ← Bundle.ofOption flag attachment
      match bundle.waiting, rest with
      | none, rest =>
          carryOut (← options.setAll bundle.settled) extras rest
      | some waiting, (value, .operand) :: more => do
          let done ← options.setAll (bundle.settled ++ [(waiting, value)])
          carryOut done extras more
      | some waiting, _ => throw (waiting.misuse "expected one argument")
  | (argument, _) :: rest => carryOut options (extras ++ [argument]) rest

/-- The options in the given arguments. -/
def parse (arguments : List String) : Except Refusal Options := do
  let roles ← Role.classify (arguments.map String.toList)
  let (options, extras) ← carryOut initial [] roles
  if extras.isEmpty then return options
  else throw (.misuse ("unrecognized arguments: " ++
    String.intercalate " " (extras.map String.ofList)))

end Options
end BattleMap
