import ReferenceSite.Text.Search

/-! Dates and times in TOML. Date and time are separated by a letter or a space, the time may have a
fraction of a second, and the distance from universal time may follow. Written back, the separator
is a capital letter and the fraction has no trailing zeros. -/
namespace ReferenceSite.Toml
open ReferenceSite.Text

def digits? (count : Nat) (s : List Char) : Option (Nat × List Char) :=
  let ds := (s.take count).takeWhile Char.isDigit
  if ds.length = count then
    some (ds.foldl (fun n c => 10 * n + (c.toNat - '0'.toNat)) 0,s.drop count)
  else none

def padded (count n : Nat) : List Char :=
  let ds := (toString n).toList
  List.replicate (count - ds.length) '0' ++ ds

def isLeapYear (year : Nat) : Bool := year % 4 = 0 && (year % 100 ≠ 0 || year % 400 = 0)

def daysIn (year month : Nat) : Nat :=
  if month = 2 then (if isLeapYear year then 29 else 28)
  else if month ∈ [4,6,9,11] then 30 else 31

def date? (s : List Char) : Option (List Char × List Char) := do
  let (year,s) ← digits? 4 s
  let (month,s) ← digits? 2 (← dropPrefix? ['-'] s)
  let (day,s) ← digits? 2 (← dropPrefix? ['-'] s)
  if 1 ≤ month ∧ month ≤ 12 ∧ 1 ≤ day ∧ day ≤ daysIn year month then
    some (padded 4 year ++ '-' :: padded 2 month ++ '-' :: padded 2 day,s)
  else none

def fraction? (s : List Char) : Option (List Char × List Char) :=
  match s with
  | '.' :: s =>
    let ds := s.takeWhile Char.isDigit
    if ds.isEmpty then none
    else
      let shown := ((ds.take 9).reverse.dropWhile (· = '0')).reverse
      some (if shown.isEmpty then [] else '.' :: shown,s.drop ds.length)
  | s => some ([],s)

def time? (s : List Char) : Option (List Char × List Char) := do
  let (hour,s) ← digits? 2 s
  let (minute,s) ← digits? 2 (← dropPrefix? [':'] s)
  let (second,s) ← digits? 2 (← dropPrefix? [':'] s)
  let (fraction,s) ← fraction? s
  if hour ≤ 23 ∧ minute ≤ 59 ∧ second ≤ 60 then
    some (padded 2 hour ++ ':' :: padded 2 minute ++ ':' :: padded 2 second ++ fraction,s)
  else none

/-- The distance from universal time. There is no negative distance of nothing. -/
def offset? (s : List Char) : Option (List Char) :=
  match s with
  | [] => some []
  | ['Z'] | ['z'] => some ['Z']
  | sign :: s => do
    if sign ≠ '+' ∧ sign ≠ '-' then none
    else
      let (hours,s) ← digits? 2 s
      let (minutes,s) ← digits? 2 (← dropPrefix? [':'] s)
      if s = [] ∧ hours ≤ 23 ∧ minutes ≤ 59 then
        some ((if hours = 0 ∧ minutes = 0 then '+' else sign) :: padded 2 hours ++ ':' :: padded 2 minutes)
      else none

/-- Whether a date alone stands here and a time follows it behind a space. -/
def continuesWithTime (run rest : List Char) : Bool :=
  (date? run).any (fun (_,s) => s.isEmpty) &&
    ((dropPrefix? [' '] rest).bind (digits? 2)).any fun (_,s) => s.head? == some ':'

def moment? (s : List Char) : Option String :=
  match date? s with
  | some (date,[]) => some (.ofList date)
  | some (date,separator :: s) => do
    if ! ['T','t',' '].contains separator then none
    else
      let (time,s) ← time? s
      some (.ofList (date ++ 'T' :: time ++ (← offset? s)))
  | none =>
    match time? s with
    | some (time,[]) => some (.ofList time)
    | _ => none

end ReferenceSite.Toml
