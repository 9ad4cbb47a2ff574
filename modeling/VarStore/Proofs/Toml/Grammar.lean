import VarStore.Text.Digits
import VarStore.Toml.Table
import Mathlib.Algebra.Field.Rat
import Mathlib.Algebra.Order.Ring.Unbundled.Rat
import Mathlib.Data.List.Basic

/-!
# The grammar of TOML

Which texts are TOML documents, and what they say, without a reader.  A document is two things.

Its text is written line by line, and each line gives at most one statement: a header in single or
double brackets, or a key with its value (`Lines`).  Every value may be written in many ways, and
each rule for one says which value is meant.  The rules also carry three limits that are no part of
the notation: integers have 64 bits, other numbers do not round to infinity, and arrays, tables in
braces and the parts of a key are nested less than eighty deep.

Its statements are then carried out one after another (`Runs`).  Here stand the rules about keys that
must not be used twice, and about the tables that a header or a dotted key may add to.  They are rules
about one entry at a time: an entry comes to the end of a table (`Table.Gains`), or changes in its
place (`Table.Changes`), and a path leads from one table to the next (`Along`).

* `Quoted`, `Numeral`, `Fractional`, `Moment`: strings, integers, other numbers, dates and times.
* `Part`, `Parts`, `KeyWritten`: keys.
* `Along`, `Enters`, `Fills`, `Step`, `Runs`: putting a table together.
* `Written`: values; `Lines`: the lines of a document; `Document`: whole texts.
-/

namespace VarStore
namespace Toml

/-! ## Characters, blanks and the ends of lines -/

/-- A blank within a line. -/
def Blank (c : Char) : Prop := c = ' ' ∨ c = '\t'

/-- What comments and strings may hold: of the control characters only the tab. -/
def Printable (c : Char) : Prop := c = '\t' ∨ (' ' ≤ c ∧ c ≠ '\x7f')

/-- What keys without quotes may hold. -/
def Bare (c : Char) : Prop := c.isAlphanum = true ∨ c = '-' ∨ c = '_'

instance (c : Char) : Decidable (Blank c) := inferInstanceAs (Decidable (_ ∨ _))

instance (c : Char) : Decidable (Printable c) := inferInstanceAs (Decidable (_ ∨ _))

instance (c : Char) : Decidable (Bare c) := inferInstanceAs (Decidable (_ ∨ _))

/-- Nothing but blanks. -/
def Blanks (b : List Char) : Prop := ∀ c ∈ b, Blank c

/-- The end of a line. -/
inductive LineEnd : List Char → Prop
  | feed : LineEnd ['\n']
  | pair : LineEnd ['\r', '\n']

/-- A comment, or none. -/
inductive Remark : List Char → Prop
  | none : Remark []
  | some {text : List Char} : (∀ c ∈ text, Printable c) → Remark ('#' :: text)

/-- What may stand between the elements of an array: blanks, ends of lines and comments. -/
inductive Gap : List Char → Prop
  | nil : Gap []
  | blank {c : Char} {g : List Char} : Blank c → Gap g → Gap (c :: g)
  | lineEnd {e g : List Char} : LineEnd e → Gap g → Gap (e ++ g)
  | comment {u e g : List Char} : (∀ c ∈ u, Printable c) → LineEnd e → Gap g →
    Gap ('#' :: (u ++ (e ++ g)))

/-! ## Strings -/

/-- The letters that may stand behind a backslash, each with the character that it means there. -/
def letters : List (Char × Char) :=
  [('b', '\x08'), ('t', '\t'), ('n', '\n'), ('f', '\x0c'), ('r', '\r'), ('"', '"'), ('\\', '\\')]

/-- What a character may be written as between double quotes. -/
inductive Escaped (c : Char) : List Char → Prop
  | self : Printable c → c ≠ '"' → c ≠ '\\' → Escaped c [c]
  | letter {e : Char} : (e, c) ∈ letters → Escaped c ['\\', e]
  | four {i j k l : Char} : Text.ofHex? [i, j, k, l] = some c.toNat →
    Escaped c ['\\', 'u', i, j, k, l]
  | eight {i j k l m n o p : Char} : Text.ofHex? [i, j, k, l, m, n, o, p] = some c.toNat →
    Escaped c ['\\', 'U', i, j, k, l, m, n, o, p]

/-- Between single quotes a character is written as itself, and not every one can be. -/
inductive Itself (c : Char) : List Char → Prop
  | self : Printable c → c ≠ '\'' → Itself c [c]

/-- Blanks and ends of lines. -/
inductive Spaces : List Char → Prop
  | nil : Spaces []
  | blank {c : Char} {g : List Char} : Blank c → Spaces g → Spaces (c :: g)
  | lineEnd {e g : List Char} : LineEnd e → Spaces g → Spaces (e ++ g)

/-- Behind a backslash, what is left out: the rest of the line, which must be blank, and all blanks
and ends of lines that follow. -/
inductive Fold : List Char → Prop
  | intro {b e g : List Char} : Blanks b → LineEnd e → Spaces g → Fold (b ++ (e ++ g))

/-- The text does not begin with a blank or an end of line. -/
def Visible (w : List Char) : Prop := ∀ c ∈ w.head?, ¬ Blank c ∧ c ≠ '\n' ∧ c ≠ '\r'

/-- A string of one line and the closing quote. -/
inductive Body (quote : Char) (Piece : Char → List Char → Prop) : List Char → List Char → Prop
  | close : Body quote Piece [] [quote]
  | char {c : Char} {s w v : List Char} :
    Piece c w → Body quote Piece s v → Body quote Piece (c :: s) (w ++ v)

/-- A string of several lines and the closing quotes, in front of which there may be up to two that
belong to the string.  Elsewhere a quote belongs to it if there are not two more behind it.  Between
double quotes a line may be folded. -/
inductive LinesBody (quote : Char) (Piece : Char → List Char → Prop) :
    List Char → List Char → Prop
  | close {n : Nat} : n ≤ 2 →
    LinesBody quote Piece (List.replicate n quote) (List.replicate (n + 3) quote)
  | char {c : Char} {s w v : List Char} :
    Piece c w → LinesBody quote Piece s v → LinesBody quote Piece (c :: s) (w ++ v)
  | lineEnd {e s v : List Char} :
    LineEnd e → LinesBody quote Piece s v → LinesBody quote Piece ('\n' :: s) (e ++ v)
  | quote {s v : List Char} : (∀ cs, v ≠ quote :: quote :: cs) →
    LinesBody quote Piece s v → LinesBody quote Piece (quote :: s) (quote :: v)
  | fold {g s v : List Char} : quote = '"' → Fold g → Visible v → LinesBody quote Piece s v →
    LinesBody quote Piece s ('\\' :: (g ++ v))

/-- The text, or the text below an end of line; it must be the latter if the text itself begins with
one. -/
inductive Below (w : List Char) : List Char → Prop
  | same : (∀ e v, LineEnd e → w ≠ e ++ v) → Below w w
  | next {e : List Char} : LineEnd e → Below w (e ++ w)

/-- What a string may be written as.  An end of line right behind three opening quotes is no part of
the string. -/
inductive Quoted (s : List Char) : List Char → Prop
  | basic {w : List Char} : Body '"' Escaped s w → Quoted s ('"' :: w)
  | literal {w : List Char} : Body '\'' Itself s w → Quoted s ('\'' :: w)
  | basicLines {w v : List Char} : LinesBody '"' Escaped s w → Below w v →
    Quoted s ('"' :: '"' :: '"' :: v)
  | literalLines {w v : List Char} : LinesBody '\'' Itself s w → Below w v →
    Quoted s ('\'' :: '\'' :: '\'' :: v)

/-! ## Numbers -/

/-- A digit of the base. -/
def Digit (base : Nat) (c : Char) : Prop := ∃ n < base, Text.hexDigit? c = some n

instance (base : Nat) (c : Char) : Decidable (Digit base c) :=
  inferInstanceAs (Decidable (∃ n < base, _))

/-- Digits, at least one, and how they may be written: single underscores may stand between them. -/
inductive Digits (base : Nat) : List Char → List Char → Prop
  | one {c : Char} : Digit base c → Digits base [c] [c]
  | next {c : Char} {ds w : List Char} : Digit base c → Digits base ds w →
    Digits base (c :: ds) (c :: w)
  | underscore {c : Char} {ds w : List Char} : Digit base c → Digits base ds w →
    Digits base (c :: ds) (c :: '_' :: w)

/-- Decimal digits, of which the first is no zero unless it stands alone. -/
inductive Whole : List Char → List Char → Prop
  | zero : Whole ['0'] ['0']
  | digits {d : Char} {ds w : List Char} : d ≠ '0' → Digits 10 (d :: ds) w → Whole (d :: ds) w

/-- A sign, or none. -/
inductive Sign : Int → List Char → Prop
  | none : Sign 1 []
  | plus : Sign 1 ['+']
  | minus : Sign (-1) ['-']

/-- What an integer may be written as.  The ones in other bases have no sign. -/
inductive Numeral : Int → List Char → Prop
  | decimal {s : Int} {a ds w : List Char} : Sign s a → Whole ds w →
    Numeral (s * Text.ofDigits 10 ds) (a ++ w)
  | based {x : Char} {base : Nat} {ds w : List Char} :
    (x, base) ∈ [('x', 16), ('o', 8), ('b', 2)] → Digits base ds w →
    Numeral (Text.ofDigits base ds) ('0' :: x :: w)

/-- What an exponent may be written as. -/
inductive Exponent : Int → List Char → Prop
  | intro {e : Char} {s : Int} {a ds w : List Char} : e = 'e' ∨ e = 'E' → Sign s a →
    Digits 10 ds w → Exponent (s * Text.ofDigits 10 ds) (e :: (a ++ w))

/-- What stands behind the whole part of a number that is no integer: the digits behind the point, the
exponent, and how they may be written. -/
inductive Tail : List Char → Int → List Char → Prop
  | fraction {ds w : List Char} : Digits 10 ds w → Tail ds 0 ('.' :: w)
  | exponent {e : Int} {v : List Char} : Exponent e v → Tail [] e v
  | both {ds w v : List Char} {e : Int} : Digits 10 ds w → Exponent e v →
    Tail ds e ('.' :: (w ++ v))

/-- The number with the digits in front of and behind the point is smaller than what a double rounds to
infinity. -/
def Bounded (s : Int) (ds fs : List Char) (e : Int) : Prop :=
  (s * Text.ofDigits 10 (ds ++ fs) : Rat) * 10 ^ (e - fs.length) < 2 ^ 1024 - 2 ^ 970

/-- What a number with a fraction or an exponent, or without finite size, may be written as. -/
inductive Fractional : List Char → Prop
  | infinity {s : Int} {a : List Char} : Sign s a → Fractional (a ++ ['i', 'n', 'f'])
  | undefined {s : Int} {a : List Char} : Sign s a → Fractional (a ++ ['n', 'a', 'n'])
  | number {s e : Int} {a ds fs w v : List Char} : Sign s a → Whole ds w → Tail fs e v →
    Bounded s ds fs e → Fractional (a ++ (w ++ v))

/-! ## Dates and times -/

/-- Two digits and the number that they spell. -/
inductive Pair : Nat → List Char → Prop
  | intro {a b : Char} : Digit 10 a → Digit 10 b → Pair (Text.ofDigits 10 [a, b]) [a, b]

/-- How many days the months of the year have. -/
def monthLengths (year : Nat) : List Nat :=
  [31, if 4 ∣ year ∧ (100 ∣ year → 400 ∣ year) then 29 else 28, 31, 30, 31, 30, 31, 31, 30, 31, 30,
    31]

/-- What a date may be written as. -/
inductive Date : List Char → Prop
  | intro {y m d : List Char} {month day last : Nat} : y.length = 4 → (∀ c ∈ y, Digit 10 c) →
    Pair month m → 1 ≤ month → (monthLengths (Text.ofDigits 10 y))[month - 1]? = some last →
    Pair day d → 1 ≤ day → day ≤ last → Date (y ++ '-' :: (m ++ '-' :: d))

/-- The fraction of a second, or none. -/
inductive SecondFraction : List Char → Prop
  | none : SecondFraction []
  | some {d : Char} {ds : List Char} : (∀ c ∈ d :: ds, Digit 10 c) → SecondFraction ('.' :: d :: ds)

/-- What a time of day may be written as.  A minute may have a leap second. -/
inductive Time : List Char → Prop
  | intro {hour minute second : Nat} {h m s f : List Char} : Pair hour h → hour ≤ 23 →
    Pair minute m → minute ≤ 59 → Pair second s → second ≤ 60 → SecondFraction f →
    Time (h ++ ':' :: (m ++ ':' :: (s ++ f)))

/-- The distance from universal time, or none. -/
inductive Offset : List Char → Prop
  | none : Offset []
  | universal {c : Char} : c = 'Z' ∨ c = 'z' → Offset [c]
  | apart {c : Char} {hour minute : Nat} {h m : List Char} : c = '+' ∨ c = '-' → Pair hour h →
    hour ≤ 23 → Pair minute m → minute ≤ 59 → Offset (c :: (h ++ ':' :: m))

/-- What a date, a time of day, or both may be written as. -/
inductive Moment : List Char → Prop
  | date {d : List Char} : Date d → Moment d
  | time {t : List Char} : Time t → Moment t
  | both {c : Char} {d t o : List Char} : Date d → c = 'T' ∨ c = 't' ∨ c = ' ' → Time t →
    Offset o → Moment (d ++ c :: (t ++ o))

/-! ## Keys -/

/-- What one part of a key may be written as. -/
inductive Part (p : String) : List Char → Prop
  | bare : p ≠ "" → (∀ c ∈ p.toList, Bare c) → Part p p.toList
  | basic {w : List Char} : Body '"' Escaped p.toList w → Part p ('"' :: w)
  | literal {w : List Char} : Body '\'' Itself p.toList w → Part p ('\'' :: w)

/-- What the parts of a key may be written as: with dots between them and blanks around these. -/
inductive Parts : List String → List Char → Prop
  | last {p : String} {w b : List Char} : Part p w → Blanks b → Parts [p] (w ++ b)
  | more {p : String} {ps : List String} {w b a v : List Char} : Part p w → Blanks b → Blanks a →
    Parts ps v → Parts (p :: ps) (w ++ (b ++ '.' :: (a ++ v)))

/-- What a key may be written as. -/
inductive KeyWritten (k : Key) : List Char → Prop
  | intro {w : List Char} : Parts (k.path ++ [k.last]) w → k.path.length + 1 < 80 → KeyWritten k w

/-! ## Putting a table together -/

namespace Table

/-- There is no entry with the key. -/
def Lacks (t : Table) (key : String) : Prop := ∀ p ∈ t, p.1 ≠ key

/-- A new entry comes to the end of the table. -/
inductive Gains (key : String) (v : Value) : Table → Table → Prop
  | intro {t : Table} : t.Lacks key → Gains key v t (t ++ [(key, v)])

/-- The value of the one entry with the key changes. -/
inductive Changes (key : String) (v v' : Value) : Table → Table → Prop
  | intro {front back : Table} : front.Lacks key → back.Lacks key →
    Changes key v v' (front ++ (key, v) :: back) (front ++ (key, v') :: back)

end Table

/-- The table at the end of a path changes as the relation says, which is also told how that table
came about.  Tables that are missing on the way are made with the origin `made`, and with
`made = .dotted` the path is that of a dotted key.

No path leads into a table in braces, and no dotted key into one with a header of its own.  Into an
array of tables a path leads at its last element. -/
inductive Along (made : Origin) (R : Origin → Table → Table → Prop) :
    List String → Origin → Table → Table → Prop
  | here {origin : Origin} {t t' : Table} : R origin t t' → Along made R [] origin t t'
  | new {key : String} {path : List String} {origin : Origin} {t t' u : Table} :
    Along made R path made [] u → Table.Gains key (.table made u) t t' →
    Along made R (key :: path) origin t t'
  | table {key : String} {path : List String} {origin o : Origin} {t t' u u' : Table} :
    o ≠ .braces → (made = .dotted → o ≠ .header) → Along made R path o u u' →
    Table.Changes key (.table o u) (.table o u') t t' → Along made R (key :: path) origin t t'
  | element {key : String} {path : List String} {origin : Origin} {t t' u u' : Table}
    {us : List Table} : Along made R path .header u u' →
    Table.Changes key (.tables (us ++ [u])) (.tables (us ++ [u'])) t t' →
    Along made R (key :: path) origin t t'

/-- A key is entered with its value.  It must be new, and the table that dots lead to must have come
about by dots alone. -/
def Enters (k : Key) (v : Value) : Table → Table → Prop :=
  Along .dotted (fun origin u u' => (k.path ≠ [] → origin = .dotted) ∧ Table.Gains k.last v u u')
    k.path .header

/-- The entries of a table in braces are entered one after another. -/
inductive Fills : List (Key × Value) → Table → Table → Prop
  | nil {t : Table} : Fills [] t t
  | cons {k : Key} {v : Value} {ps : List (Key × Value)} {t u t' : Table} : Enters k v t u →
    Fills ps u t' → Fills ((k, v) :: ps) t t'

/-- A header in single brackets makes its table, or takes one that so far was only on the way to
others. -/
inductive Opens (key : String) (t t' : Table) : Prop
  | new : Table.Gains key (.table .header []) t t' → Opens key t t'
  | implied {u : Table} : Table.Changes key (.table .implied u) (.table .header u) t t' →
    Opens key t t'

/-- A header in double brackets adds a table to an array of tables, which it may have to make. -/
inductive Extends (key : String) (t t' : Table) : Prop
  | new : Table.Gains key (.tables [[]]) t t' → Extends key t t'
  | next {us : List Table} : Table.Changes key (.tables us) (.tables (us ++ [[]])) t t' →
    Extends key t t'

/-- What a statement does to a document in the making. -/
inductive Step : Draft → Statement → Draft → Prop
  | table {k : Key} {h : List String} {t t' : Table} :
    Along .implied (fun _ => Opens k.last) k.path .header t t' →
    Step ⟨t, h⟩ (.table k) ⟨t', k.path ++ [k.last]⟩
  | element {k : Key} {h : List String} {t t' : Table} :
    Along .implied (fun _ => Extends k.last) k.path .header t t' →
    Step ⟨t, h⟩ (.element k) ⟨t', k.path ++ [k.last]⟩
  | entry {k : Key} {v : Value} {h : List String} {t t' : Table} :
    Along .implied (fun _ => Enters k v) h .header t t' → Step ⟨t, h⟩ (.entry k v) ⟨t', h⟩

/-- What statements do one after another. -/
inductive Runs : Draft → List Statement → Draft → Prop
  | nil {d : Draft} : Runs d [] d
  | cons {d e d' : Draft} {s : Statement} {ss : List Statement} : Step d s e → Runs e ss d' →
    Runs d (s :: ss) d'

/-! ## Values -/

/-- What a value without parts may be written as. -/
inductive Plain : Value → List Char → Prop
  | yes : Plain (.boolean true) "true".toList
  | no : Plain (.boolean false) "false".toList
  | integer {n : Int} {w : List Char} : Numeral n w → -2 ^ 63 ≤ n → n < 2 ^ 63 →
    Plain (.integer n) w
  | float {w : List Char} : Fractional w → Plain .float w
  | moment {w : List Char} : Moment w → Plain .moment w
  | string {s : String} {w : List Char} : Quoted s.toList w → Plain (.string s) w

section Nesting

variable (W : Value → List Char → Prop)

/-- What a key and its value may be written as, if values may be written as `W` says. -/
inductive EntryWritten : Key → Value → List Char → Prop
  | intro {k : Key} {v : Value} {a b w : List Char} : KeyWritten k a → Blanks b → W v w →
    EntryWritten k v (a ++ '=' :: (b ++ w))

/-- The elements of an array, and its end. -/
inductive Elements : List Value → List Char → Prop
  | close {g : List Char} : Gap g → Elements [] (g ++ [']'])
  | last {v : Value} {g h w : List Char} : Gap g → W v w → Gap h →
    Elements [v] (g ++ (w ++ (h ++ [']'])))
  | more {v : Value} {vs : List Value} {g h w u : List Char} : Gap g → W v w → Gap h →
    Elements vs u → Elements (v :: vs) (g ++ (w ++ (h ++ ',' :: u)))

/-- The entries of a table in braces, at least one, and its end. -/
inductive Entries : List (Key × Value) → List Char → Prop
  | last {k : Key} {v : Value} {a w b : List Char} : Blanks a → EntryWritten W k v w → Blanks b →
    Entries [(k, v)] (a ++ (w ++ (b ++ ['\x7d'])))
  | more {k : Key} {v : Value} {ps : List (Key × Value)} {a w b u : List Char} : Blanks a →
    EntryWritten W k v w → Blanks b → Entries ps u →
    Entries ((k, v) :: ps) (a ++ (w ++ (b ++ ',' :: u)))

/-- What a value may be written as, if the values within it may be written as `W` says. -/
inductive Nested : Value → List Char → Prop
  | plain {v : Value} {w : List Char} : Plain v w → Nested v w
  | array {vs : List Value} {w : List Char} : Elements W vs w → Nested (.array vs) ('[' :: w)
  | empty {b : List Char} : Blanks b → Nested (.table .braces []) ('\x7b' :: (b ++ ['\x7d']))
  | table {ps : List (Key × Value)} {t : Table} {w : List Char} : Entries W ps w →
    Fills ps [] t → Nested (.table .braces t) ('\x7b' :: w)

end Nesting

/-- **What a value may be written as**, if it is nested no deeper than the first argument says. -/
def Written : Nat → Value → List Char → Prop
  | 0 => Plain
  | depth + 1 => Nested (Written depth)

/-! ## Documents -/

/-- What a statement may be written as. -/
inductive StatementWritten : Statement → List Char → Prop
  | table {k : Key} {a w : List Char} : Blanks a → KeyWritten k w →
    StatementWritten (.table k) ('[' :: (a ++ (w ++ [']'])))
  | element {k : Key} {a w : List Char} : Blanks a → KeyWritten k w →
    StatementWritten (.element k) ('[' :: '[' :: (a ++ (w ++ [']', ']'])))
  | entry {k : Key} {v : Value} {w : List Char} : EntryWritten (Written 79) k v w →
    StatementWritten (.entry k v) w

/-- What the lines of a document may be written as, with the statements that they give. -/
inductive Lines : List Statement → List Char → Prop
  | done {b r : List Char} : Blanks b → Remark r → Lines [] (b ++ r)
  | idle {ss : List Statement} {b r e w : List Char} : Blanks b → Remark r → LineEnd e →
    Lines ss w → Lines ss (b ++ (r ++ (e ++ w)))
  | last {s : Statement} {a l b r : List Char} : Blanks a → StatementWritten s l → Blanks b →
    Remark r → Lines [s] (a ++ (l ++ (b ++ r)))
  | line {s : Statement} {ss : List Statement} {a l b r e w : List Char} : Blanks a →
    StatementWritten s l → Blanks b → Remark r → LineEnd e → Lines ss w →
    Lines (s :: ss) (a ++ (l ++ (b ++ (r ++ (e ++ w)))))

/-- The text is written as the lines for the statements.  A byte-order mark may precede them. -/
def Spelled (ss : List Statement) (text : String) : Prop :=
  ∃ w, Lines ss w ∧ (text.toList = w ∨ text.toList = '\ufeff' :: w)

/-- **A text that is a document**, with the statements that it is written as and the table that they
make. -/
structure Document (text : String) (ss : List Statement) (t : Table) : Prop where
  spelled : Spelled ss text
  runs : ∃ h, Runs ⟨[], []⟩ ss ⟨t, h⟩

end Toml
end VarStore
