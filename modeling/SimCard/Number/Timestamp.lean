import SimCard.Number.Dialling

/-!
# Timestamps

A timestamp is seven octets of semi-octets: the year within its century, month, day, hour, minute,
second, and the distance from universal time in quarters of an hour.  The fields are those of the
local clock.  A clock behind universal time has the bit `0x08` of the last octet set.

Reading puts the year after 2000 and accepts exactly the fields that make a date
(`Timestamp.isValid`).
-/

set_option autoImplicit false

namespace SimCard

/-- A local date and time with its distance from universal time, in seconds. -/
structure Timestamp where
  year : Int
  month : Nat
  day : Nat
  hour : Nat
  minute : Nat
  second : Nat
  offset : Int
deriving Repr, DecidableEq, Inhabited

namespace Timestamp

/-- Does the year have a 29th of February? -/
def isLeapYear (year : Int) : Bool := (year % 4 == 0 && year % 100 != 0) || year % 400 == 0

/-- The number of days of a month; there are none in a month that does not exist. -/
def daysInMonth (year : Int) (month : Nat) : Nat :=
  if month = 2 then (if isLeapYear year then 29 else 28)
  else if [4, 6, 9, 11].contains month then 30
  else if 1 ≤ month ∧ month ≤ 12 then 31
  else 0

/-- Do the fields make a date, a time of day and a distance of less than a day? -/
def isValid (t : Timestamp) : Bool :=
  1 ≤ t.day && t.day ≤ daysInMonth t.year t.month &&
    t.hour < 24 && t.minute < 60 && t.second < 60 && t.offset.natAbs < 86400

/-- A field as an octet. -/
def fieldOctet (value : Nat) : UInt8 := Number.pairOctet (UInt8.ofNat value)

/-- The octet of a distance from universal time, in whole quarters of an hour. -/
def offsetOctet (offset : Int) : UInt8 :=
  let octet := fieldOctet (offset.natAbs / 900)
  if offset < 0 then octet ||| 0x08 else octet

/-- The distance from universal time that an octet stands for. -/
def octetOffset (octet : UInt8) : Int :=
  let distance : Int := ((Number.octetPair (octet &&& ~~~0x08)).toNat * 900 : Nat)
  if octet &&& 0x08 = 0 then distance else -distance

/-- The seven octets of a timestamp. -/
def toOctets (t : Timestamp) : Octets :=
  [fieldOctet ((t.year - 2000) % 100).toNat, fieldOctet t.month, fieldOctet t.day,
   fieldOctet t.hour, fieldOctet t.minute, fieldOctet t.second, offsetOctet t.offset]

/-- The value of a field. -/
def octetField (octet : UInt8) : Nat := Number.appendPair 0 octet

/-- The fields that seven octets stand for, date or not. -/
def ofFields (year month day hour minute second zone : UInt8) : Timestamp :=
  { year := 2000 + octetField year
    month := octetField month
    day := octetField day
    hour := octetField hour
    minute := octetField minute
    second := octetField second
    offset := octetOffset zone }

/-- The timestamp at the front of octets, if there is one. -/
def ofOctets? : Octets → Option Timestamp
  | year :: month :: day :: hour :: minute :: second :: zone :: _ =>
    let t := ofFields year month day hour minute second zone
    if t.isValid then some t else none
  | _ => none

/-- The timestamp in the next seven octets.  They are read one by one. -/
def read : Reader FieldError Timestamp := do
  let year ← Cursor.readOctet
  let month ← Cursor.readOctet
  let day ← Cursor.readOctet
  let hour ← Cursor.readOctet
  let minute ← Cursor.readOctet
  let second ← Cursor.readOctet
  let zone ← Cursor.readOctet
  let t := ofFields year month day hour minute second zone
  if t.isValid then return t else Step.fail .timestamp

end Timestamp

end SimCard
