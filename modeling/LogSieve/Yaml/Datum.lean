import LogSieve.Number.Style
import LogSieve.Text.Quoted
import LogSieve.Time.DateTime

namespace LogSieve.Yaml

-- Mappings keep their order. A datum that contains itself has `within` where it would start again.
inductive Datum where
  | null
  | truth (b : Bool)
  | integer (i : Int)
  | real (x : Double)
  | text (s : String)
  | octets (bytes : List UInt8)
  | day (date : Date)
  | wallTime (date : Date) (clock : Clock)
  | instant (t : DateTime)
  | list (items : List Datum)
  | pairs (items : List (Datum × Datum))
  | mapping (entries : List (Datum × Datum))
  | set (items : List Datum)
  | within (ofMapping : Bool)
deriving Inhabited

namespace Datum

mutual

def same : Datum → Datum → Bool
  | .null, .null => true
  | .truth b, .truth c => b = c
  | .integer i, .integer j => i = j
  | .real x, .real y => x = y
  | .text s, .text t => s = t
  | .octets s, .octets t => s = t
  | .day s, .day t => s = t
  | .wallTime s c, .wallTime t d => s = t && c = d
  | .instant s, .instant t => s = t
  | .list s, .list t => sameItems s t
  | .pairs s, .pairs t => samePairs s t
  | .mapping s, .mapping t => samePairs s t
  | .set s, .set t => sameItems s t
  | .within s, .within t => s = t
  | _, _ => false

def sameItems : List Datum → List Datum → Bool
  | [], [] => true
  | a :: s, b :: t => same a b && sameItems s t
  | _, _ => false

def samePairs : List (Datum × Datum) → List (Datum × Datum) → Bool
  | [], [] => true
  | (a, b) :: s, (c, d) :: t => same a c && same b d && samePairs s t
  | _, _ => false

end

mutual

theorem same_iff : ∀ a b : Datum, a.same b = true ↔ a = b
  | .null, b | .truth _, b | .integer _, b | .real _, b | .text _, b | .octets _, b | .day _, b
  | .wallTime _ _, b | .instant _, b | .within _, b => by cases b <;> simp [same]
  | .list s, b => by cases b <;> simp [same, sameItems_iff s]
  | .pairs s, b => by cases b <;> simp [same, samePairs_iff s]
  | .mapping s, b => by cases b <;> simp [same, samePairs_iff s]
  | .set s, b => by cases b <;> simp [same, sameItems_iff s]

theorem sameItems_iff : ∀ s t : List Datum, sameItems s t = true ↔ s = t
  | [], t => by cases t <;> simp [sameItems]
  | a :: s, t => by cases t <;> simp [sameItems, same_iff a, sameItems_iff s]

theorem samePairs_iff : ∀ s t : List (Datum × Datum), samePairs s t = true ↔ s = t
  | [], t => by cases t <;> simp [samePairs]
  | (a, b) :: s, t => by
    cases t <;> simp [samePairs, same_iff a, same_iff b, samePairs_iff s, Prod.ext_iff]

end

instance : DecidableEq Datum := fun a b => decidable_of_iff _ (same_iff a b)

def isHashable : Datum → Bool
  | .list _ | .pairs _ | .mapping _ | .set _ | .within _ => false
  | _ => true

-- Whether a datum can be looked for among names. A set can, for what it holds is compared.
def isSought : Datum → Bool
  | .set _ => true
  | datum => datum.isHashable

def asInteger? : Datum → Option Int
  | .truth b => some b.toNat
  | .integer i => some i
  | .real x => x.toInt?
  | _ => none

-- Whether two data are one key. Numbers and truth values are compared by value.
def sameKey : Datum → Datum → Bool
  | .null, .null => true
  | .text s, .text t => s == t
  | .octets s, .octets t => s == t
  | .day s, .day t => s == t
  | .wallTime s c, .wallTime t d => s == t && c == d
  | .instant s, .instant t => s.instant == t.instant
  | .real x, .real y => x.equal y
  | a, b =>
    match a.asInteger?, b.asInteger? with
    | some i, some j => i == j
    | _, _ => false

-- Sets the value of a key. A key that is there already keeps its place and its form.
def setEntry (key value : Datum) : List (Datum × Datum) → List (Datum × Datum)
  | [] => [(key, value)]
  | (other, kept) :: rest =>
    if other.sameKey key then (other, value) :: rest
    else (other, kept) :: setEntry key value rest

def entriesOfList (entries : List (Datum × Datum)) : List (Datum × Datum) :=
  entries.foldl (fun entries entry => setEntry entry.1 entry.2 entries) []

def call (name : String) (parts : List (List Char)) : List Char :=
  let rec joined : List (List Char) → List Char
    | [] => []
    | [part] => part
    | part :: rest => part ++ ", ".toList ++ joined rest
  name.toList ++ '(' :: (joined parts ++ [')'])

def natText (n : Nat) : List Char :=
  Nat.toDigits 10 n

def dateParts (date : Date) : List (List Char) :=
  [natText date.year, natText date.month, natText date.day]

def clockParts (clock : Clock) : List (List Char) :=
  let second := if clock.second = 0 ∧ clock.microsecond = 0 then [] else [natText clock.second]
  let microsecond := if clock.microsecond = 0 then [] else [natText clock.microsecond]
  [natText clock.hour, natText clock.minute] ++ second ++ microsecond

def spanDisplay (minutes : Int) : List Char :=
  let days := Int.fdiv minutes 1440
  let seconds := Int.fmod minutes 1440 * 60
  let dayPart := if days = 0 then [] else ["days=".toList ++ writeInt days]
  let secondPart := if seconds = 0 then [] else ["seconds=".toList ++ writeInt seconds]
  let parts := dayPart ++ secondPart
  call "datetime.timedelta" (if parts = [] then [['0']] else parts)

def zoneDisplay (offset : Int) : List Char :=
  "tzinfo=".toList ++ if offset = 0 then "datetime.timezone.utc".toList
    else call "datetime.timezone" [spanDisplay offset]

mutual

def display : Datum → List Char
  | .null => "None".toList
  | .truth b => if b then "True".toList else "False".toList
  | .integer i => writeInt i
  | .real x => NumberStyle.standalone.write x
  | .text s => Quoted.text s.toList
  | .octets bytes => Quoted.bytes bytes
  | .day date => call "datetime.date" (dateParts date)
  | .wallTime date clock => call "datetime.datetime" (dateParts date ++ clockParts clock)
  | .instant t =>
    call "datetime.datetime" (dateParts t.date ++ clockParts t.clock ++ [zoneDisplay t.offset])
  | .list items => '[' :: (displayItems items ++ [']'])
  | .pairs items => '[' :: (displayPairs items ++ [']'])
  | .mapping entries => '{' :: (displayEntries entries ++ ['}'])
  | .set [] => "set()".toList
  | .set items => '{' :: (displayItems items ++ ['}'])
  | .within true => "\x7b...\x7d".toList
  | .within false => "[...]".toList

def displayItems : List Datum → List Char
  | [] => []
  | [item] => display item
  | item :: rest => display item ++ ',' :: ' ' :: displayItems rest

def displayPairs : List (Datum × Datum) → List Char
  | [] => []
  | [(a, b)] => '(' :: (display a ++ ',' :: ' ' :: display b ++ [')'])
  | (a, b) :: rest =>
    '(' :: (display a ++ ',' :: ' ' :: display b ++ ')' :: ',' :: ' ' :: displayPairs rest)

def displayEntries : List (Datum × Datum) → List Char
  | [] => []
  | [(key, value)] => display key ++ ':' :: ' ' :: display value
  | (key, value) :: rest =>
    display key ++ ':' :: ' ' :: display value ++ ',' :: ' ' :: displayEntries rest

end

-- A whole number of more digits is neither read nor shown in base ten.
def longestInteger : Nat := 4300

mutual

def isShowable : Datum → Bool
  | .integer i => decide (i.natAbs < Nat.pow 10 longestInteger)
  | .list items => itemsShowable items
  | .pairs items => pairsShowable items
  | .mapping entries => pairsShowable entries
  | .set items => itemsShowable items
  | _ => true

def itemsShowable : List Datum → Bool
  | [] => true
  | item :: rest => isShowable item && itemsShowable rest

def pairsShowable : List (Datum × Datum) → Bool
  | [] => true
  | (a, b) :: rest => isShowable a && isShowable b && pairsShowable rest

end

def wallTimeText (date : Date) (clock : Clock) : List Char :=
  DateTime.dateText date ++ ' ' :: (DateTime.clockText clock ++ DateTime.fractionText clock)

def toText : Datum → List Char
  | .text s => s.toList
  | .day date => DateTime.dateText date
  | .wallTime date clock => wallTimeText date clock
  | .instant t => wallTimeText t.date t.clock ++ DateTime.offsetText t.offset
  | other => other.display

end Datum

end LogSieve.Yaml
