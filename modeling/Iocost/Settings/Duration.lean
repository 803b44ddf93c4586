import Iocost.Text.Blank
import Iocost.Text.Integer

/-!
Lengths of time, and the text of one: numbers with units, such as `1h 30min` or `2.5s`. A number may
have blanks between its digits and a decimal fraction, and ends where its unit begins; a unit ends
at a blank or at the next number. A fraction has to come out even in the unit that it is turned
into: nanoseconds up to minutes, seconds above. No number on the way may exceed 64 bits.
-/

namespace Iocost

/-- A length of time. -/
structure Duration where
  nanoseconds : Nat
deriving DecidableEq

namespace Duration

/-- Nanoseconds in a second. -/
def second : Nat := 1000000000

/-- The length of a number of seconds and nanoseconds. -/
def ofParts (seconds nanoseconds : Nat) : Duration := ⟨seconds * second + nanoseconds⟩

def seconds (d : Duration) : Nat := d.nanoseconds / second

def subsecond (d : Duration) : Nat := d.nanoseconds % second

/-- A unit of time: so many nanoseconds or so many seconds. -/
structure TimeUnit where
  /-- How many steps the unit is. -/
  size : Nat
  /-- The step, in nanoseconds. -/
  step : Nat
  /-- How many steps the unit is for a fraction, and their size, if it may have one. -/
  fraction? : Option (Nat × Nat)

def TimeUnit.ofNanoseconds (size : Nat) : TimeUnit := ⟨size, 1, some (size, 1)⟩

def TimeUnit.ofSeconds (size : Nat) : TimeUnit := ⟨size, second, some (size, second)⟩

def TimeUnit.named? : String → Option TimeUnit
  | "ns" | "nsec" | "nanos" => some ⟨1, 1, none⟩
  | "us" | "usec" | "µs" => some (.ofNanoseconds 1000)
  | "ms" | "msec" | "millis" => some (.ofNanoseconds 1000000)
  | "s" | "sec" | "secs" | "second" | "seconds" => some ⟨1, second, some (second, 1)⟩
  | "m" | "min" | "mins" | "minute" | "minutes" => some ⟨60, second, some (60 * second, 1)⟩
  | "h" | "hr" | "hrs" | "hour" | "hours" => some (.ofSeconds 3600)
  | "d" | "day" | "days" => some (.ofSeconds 86400)
  | "w" | "wk" | "wks" | "week" | "weeks" => some (.ofSeconds 604800)
  | "M" | "month" | "months" => some (.ofSeconds 2630016)
  | "y" | "yr" | "yrs" | "year" | "years" => some (.ofSeconds 31557600)
  | _ => none

/-- A number that 64 bits can hold. -/
def word? (n : Nat) : Option Nat := if n < Text.wordCount then some n else none

/-- A decimal number: its whole part, and the digits of its fraction if it has one. -/
structure Amount where
  whole : Nat
  fraction? : Option (List Nat) := none

/-- The fraction of an amount: numerator and denominator. -/
def fractionOf? (digits : List Nat) : Option (Nat × Nat) := do
  guard (!digits.isEmpty)
  let n ← word? (digits.foldl (fun n d => 10 * n + d) 0)
  let d ← word? (Nat.pow 10 digits.length)
  some (n, d)

/-- Adds a length to the time so far, whose seconds 64 bits have to hold. -/
def add? (total : Duration) (size step : Nat) : Option Duration := do
  let size ← word? size
  let sum : Duration := ⟨total.nanoseconds + size * step⟩
  let _ ← word? (total.subsecond + if step = 1 then size else 0)
  let _ ← word? sum.seconds
  some sum

def addAmount? (total : Duration) (amount : Amount) (unit : TimeUnit) : Option Duration := do
  let total ← total.add? (amount.whole * unit.size) unit.step
  match amount.fraction? with
  | none => some total
  | some digits =>
    let (size, step) ← unit.fraction?
    let (n, d) ← fractionOf? digits
    let product ← word? (n * size)
    guard (product % d = 0)
    total.add? (product / d) step

/-- A letter of a unit. -/
def isUnitLetter (c : Char) : Bool := c.isAlpha || c == 'µ'

/-- Where a reader of the text of a length stands. -/
inductive Reading where
  /-- Before a number, or at the end. -/
  | between
  | whole (n : Nat)
  | fraction (n : Nat) (digits : List Nat)
  | unit (amount : Amount) (letters : List Char)

def digitValue (c : Char) : Nat := c.toNat - '0'.toNat

def endUnit? (total : Duration) (amount : Amount) (letters : List Char) : Option Duration :=
  (TimeUnit.named? (String.ofList letters)).bind (total.addAmount? amount)

def step? (total : Duration) (c : Char) : Reading → Option (Duration × Reading)
  | .between =>
    if c.isDigit then some (total, .whole (digitValue c))
    else if Text.isBlank c then some (total, .between)
    else none
  | .whole n =>
    if c.isDigit then (word? (10 * n + digitValue c)).map fun n => (total, .whole n)
    else if Text.isBlank c then some (total, .whole n)
    else if isUnitLetter c then some (total, .unit { whole := n } [c])
    else if c == '.' then some (total, .fraction n [])
    else none
  | .fraction n digits =>
    if c.isDigit then some (total, .fraction n (digits ++ [digitValue c]))
    else if Text.isBlank c then some (total, .fraction n digits)
    else if isUnitLetter c then some (total, .unit { whole := n, fraction? := some digits } [c])
    else none
  | .unit amount letters =>
    if c.isDigit then
      (total.endUnit? amount letters).map fun total => (total, .whole (digitValue c))
    else if Text.isBlank c then
      (total.endUnit? amount letters).map fun total => (total, .between)
    else if isUnitLetter c then some (total, .unit amount (letters ++ [c]))
    else none

def readFrom? (total : Duration) : Reading → List Char → Option Duration
  | .between, [] => some total
  | .unit amount letters, [] => total.endUnit? amount letters
  | _, [] => none
  | reading, c :: cs =>
    (total.step? c reading).bind fun (total, reading) => readFrom? total reading cs

/-- The length of time that a text writes. A zero alone needs no unit. -/
def read? (cs : List Char) : Option Duration :=
  if cs = ['0'] then some ⟨0⟩
  else if cs.all Text.isBlank then none
  else readFrom? ⟨0⟩ .between cs

end Duration

end Iocost
