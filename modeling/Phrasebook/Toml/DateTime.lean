namespace Phrasebook

structure Date where
  year : Nat
  month : Nat
  day : Nat

structure TimeOfDay where
  hour : Nat
  minute : Nat
  second : Nat
  nanosecond : Nat

inductive TimeOffset where
  | zero
  | minutes (behind : Bool) (count : Nat)

inductive DateTime where
  | day (date : Date)
  | clock (time : TimeOfDay)
  | moment (date : Date) (time : TimeOfDay) (offset : Option TimeOffset)

def paddedNumber (width number : Nat) : String :=
  let digits := Nat.toDigits 10 number
  String.ofList (List.replicate (width - digits.length) '0' ++ digits)

def Date.text (date : Date) : String :=
  "-".intercalate [paddedNumber 4 date.year, paddedNumber 2 date.month, paddedNumber 2 date.day]

def TimeOfDay.fractionText (time : TimeOfDay) : String :=
  let digits := (paddedNumber 9 time.nanosecond).toList
  String.ofList ((digits.reverse.dropWhile (· = '0')).reverse)

def TimeOfDay.text (time : TimeOfDay) : String :=
  let seconds := ":".intercalate
    [paddedNumber 2 time.hour, paddedNumber 2 time.minute, paddedNumber 2 time.second]
  if time.nanosecond = 0 then seconds else seconds ++ "." ++ time.fractionText

/-- A distance of no minutes is written as one ahead. -/
def TimeOffset.text : TimeOffset → String
  | .zero => "Z"
  | .minutes behind count =>
      (if behind && count ≠ 0 then "-" else "+") ++ paddedNumber 2 (count / 60) ++ ":" ++
        paddedNumber 2 (count % 60)

def DateTime.text : DateTime → String
  | .day date => date.text
  | .clock time => time.text
  | .moment date time offset =>
      date.text ++ "T" ++ time.text ++ (offset.map TimeOffset.text).getD ""

end Phrasebook
