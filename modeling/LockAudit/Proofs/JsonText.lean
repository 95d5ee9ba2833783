import LockAudit.Json.Printer
import LockAudit.Json.Reader
import LockAudit.Proofs.Outcomes
import LockAudit.SortedSet

/-!
# Reading what is written

The text that is written for a value without doubles is read back as the value.
Readers are shown to take exactly the text that belongs to them, in front of
whatever may follow a value: the end, a comma or a closing bracket.
-/

namespace LockAudit.Json

/-- The rest of a text after a value. -/
def Ends (rest : List Char) : Prop :=
  ∀ character ∈ rest.head?, character ∈ [',', ']', '}']

/-- In front of any such rest, the reader takes the text for the result. -/
def Reads (reader : Reader α) (text : List Char) (result : α) : Prop :=
  ∀ rest offset, Ends rest →
    ∃ after, reader ⟨text ++ rest, offset⟩ = .ok (result, ⟨rest, after⟩)

theorem hexUnit?_hexDigit : ∀ unit < 32,
    hexUnit? '0' '0' (hexDigit (unit / 16)) (hexDigit unit) = some unit := by
  decide

theorem readString_plain {character : Char} (notQuote : character ≠ '"')
    (notBackslash : character ≠ '\\') (printable : ¬character.toNat < 0x20)
    (reversed rest : List Char) (offset : Nat) :
    readString reversed (character :: rest) offset =
      readString (character :: reversed) rest
        (offset + character.utf8Size) := by
  rw [readString, if_neg printable]
  all_goals simp [notQuote, notBackslash]

theorem readString_escape (character : Char) (reversed rest : List Char)
    (offset : Nat) :
    ∃ after, readString reversed (escape character ++ rest) offset =
      readString (character :: reversed) rest after := by
  unfold escape
  split
  case h_8 notQuote notBackslash _ _ _ _ _ =>
    split
    · next control =>
      have unit := hexUnit?_hexDigit character.toNat control
      have low : character.toNat < 0xD800 := by omega
      have high : ¬0xDC00 ≤ character.toNat := by omega
      exact ⟨offset + 6, by simp [readString, unit, low, high]⟩
    · next printable =>
      exact ⟨_, readString_plain notQuote notBackslash printable ..⟩
  all_goals exact ⟨_, rfl⟩

/-- A text is read back from its escaped form, up to the closing quote. -/
theorem readString_escaped (text reversed rest : List Char) (offset : Nat) :
    ∃ after, readString reversed (text.flatMap escape ++ '"' :: rest) offset =
      .ok (String.ofList (reversed.reverse ++ text), ⟨rest, after⟩) := by
  induction text generalizing reversed offset with
  | nil => exact ⟨offset + 1, by simp [readString]⟩
  | cons character text induction =>
      rw [List.flatMap_cons, List.append_assoc]
      obtain ⟨next, first⟩ := readString_escape character reversed
        (text.flatMap escape ++ '"' :: rest) offset
      obtain ⟨after, later⟩ := induction (character :: reversed) next
      exact ⟨after, by simpa [first] using later⟩

theorem isDigit_of_mem_toDigits {number : Nat} {digit : Char}
    (member : digit ∈ Nat.toDigits 10 number) :
    Cursor.isDigit digit = true := by
  have isDigit := Nat.isDigit_of_mem_toDigits (by decide) (by decide) member
  simpa [Char.isDigit, Cursor.isDigit, Char.le_def] using isDigit

theorem Ends.not_isDigit {character : Char} {rest : List Char}
    (ends : Ends (character :: rest)) : Cursor.isDigit character = false := by
  have marks := ends character rfl
  simp only [List.mem_cons, List.not_mem_nil, or_false] at marks
  rcases marks with rfl | rfl | rfl
  · decide
  · decide
  · decide

theorem takeDigits_append {digits rest : List Char} {offset : Nat}
    (eachDigit : ∀ digit ∈ digits, Cursor.isDigit digit = true)
    (ends : Ends rest) :
    (Cursor.mk (digits ++ rest) offset).takeDigits =
      (digits.map fun digit => digit.toNat - '0'.toNat,
        ⟨rest, offset + digits.length⟩) := by
  have none : rest.takeWhile Cursor.isDigit = [] := by
    cases rest with
    | nil => rfl
    | cons character rest => simp [ends.not_isDigit]
  have all : rest.dropWhile Cursor.isDigit = rest := by
    cases rest with
    | nil => rfl
    | cons character rest => simp [ends.not_isDigit]
  simp [Cursor.takeDigits, List.takeWhile_append_of_pos eachDigit,
    List.dropWhile_append_of_pos eachDigit, none, all]

theorem le_ofDigitChars (digits : List Char) (number : Nat) :
    number ≤ Nat.ofDigitChars 10 digits number := by
  rw [Nat.ofDigitChars_eq_ofDigitChars_zero]
  exact Nat.le_add_right_of_le
    (Nat.le_mul_of_pos_left number (Nat.pow_pos (by decide)))

/-- Digits are all taken as long as the number that they make fits. -/
theorem absorb_digits (digits : List Char) (number : Nat)
    (fits : Nat.ofDigitChars 10 digits number < Nat.pow 2 64) :
    absorb number (digits.map fun digit => digit.toNat - '0'.toNat) =
      (Nat.ofDigitChars 10 digits number, digits.length) := by
  induction digits generalizing number with
  | nil => rfl
  | cons digit digits induction =>
      rw [Nat.ofDigitChars_cons] at fits ⊢
      have less := Nat.lt_of_le_of_lt (le_ofDigitChars digits _) fits
      rw [List.map_cons, absorb, if_pos less, induction _ fits]
      rfl

/-- A number of several digits does not start with a zero. -/
theorem toDigits_leading_zero {number : Nat} {later : List Char}
    (leading : Nat.toDigits 10 number = '0' :: later) : later = [] := by
  induction number using Nat.strongRecOn generalizing later with
  | ind number induction =>
      by_cases small : number < 10
      · rw [Nat.toDigits_of_lt_base small] at leading
        exact (List.cons.inj leading).2.symm
      · rw [Nat.toDigits_of_base_le (by decide) (by omega)] at leading
        obtain ⟨first, more, digits⟩ :=
          List.exists_cons_of_ne_nil (@Nat.toDigits_ne_nil (number / 10) 10)
        rw [digits, List.cons_append] at leading
        obtain ⟨rfl, _⟩ := List.cons.inj leading
        obtain rfl := induction (number / 10) (by omega) digits
        have zero : number / 10 = Nat.ofDigitChars 10 ['0'] 0 := by
          rw [← digits, Nat.ofDigitChars_ten_toDigits]
        simp only [Nat.ofDigitChars_cons, Nat.ofDigitChars_nil] at zero
        omega

theorem digitValues_leading_zero {number second : Nat} {more : List Nat} :
    (Nat.toDigits 10 number).map (fun digit => digit.toNat - '0'.toNat) ≠
      0 :: second :: more := by
  intro values
  obtain ⟨first, later, digits⟩ :=
    List.exists_cons_of_ne_nil (@Nat.toDigits_ne_nil number 10)
  have isDigit := @isDigit_of_mem_toDigits number first (by simp [digits])
  rw [digits, List.map_cons] at values
  obtain ⟨zero, values⟩ := List.cons.inj values
  have isZero : first = '0' := by
    simp only [Cursor.isDigit, Bool.and_eq_true, decide_eq_true_eq,
      Char.le_def, UInt32.le_iff_toNat_le] at isDigit
    apply Char.toNat_inj.mp
    exact Nat.le_antisymm (Nat.le_of_sub_eq_zero zero) isDigit.1
  subst isZero
  rw [toDigits_leading_zero digits] at values
  simp at values

/-- A numeral of digits only is read as an integer. -/
theorem readNumber_toDigits {magnitude : Nat} (fits : magnitude < Nat.pow 2 64)
    (negative : Bool) {rest : List Char} (ends : Ends rest) (offset : Nat) :
    ∃ after, readNumber negative ⟨Nat.toDigits 10 magnitude ++ rest, offset⟩ =
      finishInteger negative magnitude 0 ⟨rest, after⟩ := by
  have taken := @takeDigits_append _ _ offset
    (fun _ => @isDigit_of_mem_toDigits magnitude _) ends
  have absorbed := absorb_digits (Nat.toDigits 10 magnitude) 0
    (by rwa [Nat.ofDigitChars_ten_toDigits])
  rw [Nat.ofDigitChars_ten_toDigits] at absorbed
  refine ⟨offset + (Nat.toDigits 10 magnitude).length, ?_⟩
  simp only [readNumber, taken]
  split
  · next empty => simp at empty
  · next leading => exact (digitValues_leading_zero leading).elim
  · simp only [absorbed, List.length_map, Nat.sub_self]
    split
    · simp [Ends] at ends
    · simp [Ends] at ends
    · simp [Ends] at ends
    · rfl

theorem Cursor.skipBlanks_cons {character : Char}
    (notBlank : isBlank character = false) (rest : List Char) (offset : Nat) :
    (Cursor.mk (character :: rest) offset).skipBlanks =
      ⟨character :: rest, offset⟩ := by
  simp [skipBlanks, notBlank]

/-- The texts of the items, with commas between them. -/
def separated (text : α → List Char) : List α → List Char
  | [] => []
  | first :: later => text first ++ later.flatMap fun item => ',' :: text item

/-- Every item has a character before it, or is the first. -/
theorem length_lt_separated (text : α → List Char) (items : List α)
    (closing : Char) (rest : List Char) :
    items.length < (separated text items ++ closing :: rest).length + 1 := by
  cases items with
  | nil => simp
  | cons first later =>
      have commas : later.length ≤
          (later.flatMap fun item => ',' :: text item).length := by
        induction later with
        | nil => simp
        | cons item later induction =>
            simp only [List.flatMap_cons, List.length_append, List.length_cons]
            omega
      simp only [separated, List.length_append, List.length_cons]
      omega

/-- How a loop goes round: it ends at the closing mark, and reads a part at the
beginning and after every comma.  Lists and objects are both read so; they
differ in what a part is and how it begins. -/
structure Rounds (loop : (reversed : List α) → (fuel : Nat) → Reader (List α))
    (part : Reader α) (opens : Char → Prop) (closing : Char) : Prop where
  closes (reversed : List α) (fuel : Nat) (rest : List Char) (offset : Nat) :
    loop reversed (fuel + 1) ⟨closing :: rest, offset⟩ =
      .ok (reversed.reverse, ⟨rest, offset + 1⟩)
  begins {first : Char} (opened : opens first) (fuel : Nat) (rest : List Char)
      (offset : Nat) :
    loop [] (fuel + 1) ⟨first :: rest, offset⟩ =
      part ⟨first :: rest, offset⟩ >>= fun read => loop [read.1] fuel read.2
  continues {first : Char} (opened : opens first) (last : α)
      (reversed : List α) (fuel : Nat) (rest : List Char) (offset : Nat) :
    loop (last :: reversed) (fuel + 1) ⟨',' :: first :: rest, offset⟩ =
      part ⟨first :: rest, offset + 1⟩ >>= fun read =>
        loop (read.1 :: last :: reversed) fuel read.2
  closing_ends : closing ∈ [',', ']', '}']

theorem Ends.cons {character : Char} (mark : character ∈ [',', ']', '}'])
    (rest : List Char) : Ends (character :: rest) := by
  intro first isFirst
  obtain rfl : character = first := by simpa using isFirst
  exact mark

namespace Rounds

variable {loop : (reversed : List α) → (fuel : Nat) → Reader (List α)}
  {part : Reader α} {opens : Char → Prop} {closing : Char}
  {text : α → List Char} {items : List α} {fuel : Nat}

theorem ends (rounds : Rounds loop part opens closing) (later : List α)
    (rest : List Char) :
    Ends ((later.flatMap fun item => ',' :: text item) ++ closing :: rest) := by
  cases later with
  | nil => exact .cons rounds.closing_ends rest
  | cons item later => exact .cons (by simp) _

/-- Every round takes a comma and an item, and the last one takes the mark. -/
theorem reads_later (rounds : Rounds loop part opens closing)
    (starts : ∀ item ∈ items, ∃ first more, text item = first :: more ∧
      opens first)
    (reads : ∀ item ∈ items, Reads part (text item) item)
    (enough : items.length < fuel) (last : α) (reversed : List α)
    (rest : List Char) (offset : Nat) :
    ∃ after, loop (last :: reversed) fuel
        ⟨(items.flatMap fun item => ',' :: text item) ++ closing :: rest,
          offset⟩ =
      .ok ((last :: reversed).reverse ++ items, ⟨rest, after⟩) := by
  induction items generalizing fuel last reversed offset with
  | nil =>
      obtain ⟨fuel, rfl⟩ := Nat.exists_eq_add_one_of_ne_zero
        (Nat.ne_zero_of_lt enough)
      refine ⟨offset + 1, ?_⟩
      simpa using rounds.closes (last :: reversed) fuel rest offset
  | cons item later induction =>
      obtain ⟨fuel, rfl⟩ := Nat.exists_eq_add_one_of_ne_zero
        (Nat.ne_zero_of_lt enough)
      obtain ⟨startsHere, startsLater⟩ := List.forall_mem_cons.mp starts
      obtain ⟨readsHere, readsLater⟩ := List.forall_mem_cons.mp reads
      obtain ⟨first, more, begun, opened⟩ := startsHere
      obtain ⟨next, read⟩ := readsHere _ (offset + 1) (rounds.ends later rest)
      obtain ⟨after, finished⟩ := induction startsLater readsLater
        (Nat.lt_of_succ_lt_succ enough) item (last :: reversed) next
      refine ⟨after, ?_⟩
      rw [begun] at read
      simp only [List.flatMap_cons, List.cons_append, List.append_assoc, begun]
        at read ⊢
      rw [rounds.continues opened, read, ok_bind, finished]
      simp

/-- A loop reads the items whose texts stand before the closing mark. -/
theorem reads (rounds : Rounds loop part opens closing)
    (starts : ∀ item ∈ items, ∃ first more, text item = first :: more ∧
      opens first)
    (reads : ∀ item ∈ items, Reads part (text item) item)
    (enough : items.length < fuel) (rest : List Char) (offset : Nat) :
    ∃ after, loop [] fuel
        ⟨separated text items ++ closing :: rest, offset⟩ =
      .ok (items, ⟨rest, after⟩) := by
  obtain ⟨fuel, rfl⟩ := Nat.exists_eq_add_one_of_ne_zero
    (Nat.ne_zero_of_lt enough)
  cases items with
  | nil => exact ⟨offset + 1, rounds.closes [] fuel rest offset⟩
  | cons item later =>
      obtain ⟨startsHere, startsLater⟩ := List.forall_mem_cons.mp starts
      obtain ⟨readsHere, readsLater⟩ := List.forall_mem_cons.mp reads
      obtain ⟨first, more, begun, opened⟩ := startsHere
      obtain ⟨next, read⟩ := readsHere _ offset (rounds.ends later rest)
      obtain ⟨after, finished⟩ := rounds.reads_later startsLater readsLater
        (Nat.lt_of_succ_lt_succ enough) item [] rest next
      refine ⟨after, ?_⟩
      rw [begun] at read
      simp only [separated, List.cons_append, List.append_assoc, begun]
        at read ⊢
      rw [rounds.begins opened, read, ok_bind, finished]
      simp

end Rounds

theorem Cursor.not_isBlank_marks :
    ∀ mark ∈ [',', ']', '}', '"', ':', '-', '[', '{'],
      isBlank mark = false := by
  simp [isBlank]

theorem readItems_rounds (item : Reader Value) :
    Rounds (readItems item) item
      (fun first => Cursor.isBlank first = false ∧ first ≠ ']') ']' where
  closes reversed fuel rest offset := by
    simp [readItems, Cursor.skipBlanks_cons, Cursor.not_isBlank_marks]
  begins opened fuel rest offset := by
    simp [readItems, Cursor.skipBlanks_cons opened.1, opened.2]
  continues opened last reversed fuel rest offset := by
    simp [readItems, Cursor.skipBlanks_cons, Cursor.not_isBlank_marks, opened.1,
      opened.2]
  closing_ends := by decide

theorem readMembers_rounds (item : Reader Value) :
    Rounds (readMembers item) (readMember item) (· = '"') '}' where
  closes reversed fuel rest offset := by
    simp [readMembers, Cursor.skipBlanks_cons, Cursor.not_isBlank_marks]
  begins opened fuel rest offset := by
    simp [readMembers, opened, Cursor.skipBlanks_cons, Cursor.not_isBlank_marks]
  continues opened last reversed fuel rest offset := by
    simp [readMembers, opened, Cursor.skipBlanks_cons, Cursor.not_isBlank_marks]
  closing_ends := by decide

/-- The text of a member. -/
def memberText (member : String × Value) : List Char :=
  (quote member.1).toList ++ ':' :: member.2.compact.toList

theorem toList_quote (text : String) :
    (quote text).toList = '"' :: text.toList.flatMap escape ++ ['"'] := by
  simp [quote]

theorem compactItems_toList (items : List Value) :
    (Value.compactItems items).toList =
      separated (·.compact.toList) items := by
  cases items with
  | nil => rfl
  | cons first later =>
      induction later generalizing first with
      | nil => simp [Value.compactItems, separated]
      | cons item later induction =>
          simp [Value.compactItems, separated, induction item]

theorem compactMembers_toList (members : List (String × Value)) :
    (Value.compactMembers members).toList = separated memberText members := by
  cases members with
  | nil => rfl
  | cons first later =>
      induction later generalizing first with
      | nil => simp [Value.compactMembers, separated, memberText]
      | cons member later induction =>
          simp [Value.compactMembers, separated, memberText, induction member]

theorem toList_compact_array (items : List Value) :
    (Value.array items).compact.toList =
      '[' :: separated (·.compact.toList) items ++ [']'] := by
  simp [Value.compact, compactItems_toList]

theorem toList_compact_object (members : List (String × Value)) :
    (Value.object members).compact.toList =
      '{' :: separated memberText members ++ ['}'] := by
  simp [Value.compact, compactMembers_toList]

theorem reads_member {item : Reader Value} {member : String × Value}
    (reads : Reads item member.2.compact.toList member.2) :
    Reads (readMember item) (memberText member) member := by
  intro rest offset ends
  obtain ⟨name, value⟩ := member
  obtain ⟨colon, named⟩ := readString_escaped name.toList []
    (':' :: (value.compact.toList ++ rest)) (offset + 1)
  obtain ⟨after, read⟩ := reads rest (colon + 1) ends
  have text : memberText (name, value) ++ rest =
      '"' :: (name.toList.flatMap escape ++
        '"' :: ':' :: (value.compact.toList ++ rest)) := by
    simp [memberText, toList_quote]
  refine ⟨after, ?_⟩
  have notBlank := Cursor.not_isBlank_marks ':' (by simp)
  simp only [readMember, text, List.drop_succ_cons, List.drop_zero, named,
    ok_bind, Cursor.skipBlanks_cons notBlank, read]
  simp [pure, Except.pure]

/-- A value that is read back at a depth: it holds no doubles, its integers are
in range, its objects are in order, and it does not nest deeper. -/
inductive Readable : (levels : Nat) → Value → Prop where
  | null : Readable levels .null
  | bool (flag : Bool) : Readable levels (.bool flag)
  | integer {number : Int} (least : -Nat.pow 2 63 ≤ number)
      (fits : number < Nat.pow 2 64) :
      Readable levels (.number (.integer number))
  | string (text : String) : Readable levels (.string text)
  | array {items : List Value} (each : ∀ item ∈ items, Readable levels item) :
      Readable (levels + 1) (.array items)
  | object {members : List (String × Value)}
      (increasing : Increasing (members.map Prod.fst))
      (each : ∀ member ∈ members, Readable levels member.2) :
      Readable (levels + 1) (.object members)

theorem Value.insertMember_last {name : String} {value : Value}
    {members : List (String × Value)}
    (larger : ∀ member ∈ members, compare member.1 name = .lt) :
    insertMember name value members = members ++ [(name, value)] := by
  induction members with
  | nil => rfl
  | cons member later induction =>
      obtain ⟨largerHere, largerLater⟩ := List.forall_mem_cons.mp larger
      obtain ⟨other, held⟩ := member
      have greater : compare name other = .gt :=
        Std.OrientedCmp.gt_iff_lt.mpr largerHere
      simp [insertMember, greater, induction largerLater]

theorem Value.foldl_insertMember {members later : List (String × Value)}
    (increasing : Increasing ((members ++ later).map Prod.fst)) :
    later.foldl (fun sorted member => insertMember member.1 member.2 sorted)
        members =
      members ++ later := by
  induction later generalizing members with
  | nil => simp
  | cons member later induction =>
      have larger : ∀ other ∈ members, compare other.1 member.1 = .lt := by
        simp only [Increasing, List.pairwise_map, List.pairwise_append]
          at increasing
        exact fun other isOther => increasing.2.2 other isOther member (by simp)
      have sameOrder : Increasing
          ((members ++ [member] ++ later).map Prod.fst) := by
        simpa using increasing
      rw [List.foldl_cons, insertMember_last larger, induction sameOrder]
      simp

theorem Value.ofMembers_of_increasing {members : List (String × Value)}
    (increasing : Increasing (members.map Prod.fst)) :
    Value.ofMembers members = .object members := by
  rw [ofMembers, @foldl_insertMember [] members increasing, List.nil_append]

theorem Cursor.not_isDigit_marks :
    ∀ mark ∈ ['n', 't', 'f', '"', '-', '[', '{', ']', ' ', '\n', '\t', '\r'],
      isDigit mark = false := by
  simp [isDigit]

theorem Cursor.ne_mark_of_isDigit {first : Char}
    (digit : isDigit first = true) :
    ∀ mark ∈ ['n', 't', 'f', '"', '-', '[', '{', ']', ' ', '\n', '\t', '\r'],
      first ≠ mark := by
  intro mark listed same
  have noDigit := not_isDigit_marks mark listed
  rw [← same, digit] at noDigit
  cases noDigit

theorem Cursor.not_isBlank_of_isDigit {first : Char}
    (digit : isDigit first = true) : isBlank first = false := by
  simp [isBlank, ne_mark_of_isDigit digit]

theorem readValue_digit {first : Char} (digit : Cursor.isDigit first = true)
    (levels : Nat) (rest : List Char) (offset : Nat) :
    readValue levels ⟨first :: rest, offset⟩ =
      readNumber false ⟨first :: rest, offset⟩ >>= fun read =>
        pure (.number read.1, read.2) := by
  unfold readValue
  simp only [Cursor.skipBlanks_cons (Cursor.not_isBlank_of_isDigit digit)]
  simp [Cursor.ne_mark_of_isDigit digit, digit]

theorem toList_write_ofNat (number : Nat) :
    (Number.write (.integer (.ofNat number))).toList =
      Nat.toDigits 10 number :=
  Nat.toList_repr

theorem toList_write_negSucc (number : Nat) :
    (Number.write (.integer (.negSucc number))).toList =
      '-' :: Nat.toDigits 10 (number + 1) := by
  have written : Number.write (.integer (.negSucc number)) =
      "-" ++ (number + 1).repr := rfl
  simp [written]

theorem reads_natural (levels : Nat) {number : Nat}
    (fits : number < Nat.pow 2 64) :
    Reads (readValue levels) (Nat.toDigits 10 number)
      (.number (.integer number)) := by
  intro rest offset ends
  obtain ⟨after, read⟩ := readNumber_toDigits fits false ends offset
  obtain ⟨first, more, digits⟩ :=
    List.exists_cons_of_ne_nil (@Nat.toDigits_ne_nil number 10)
  have digit := @isDigit_of_mem_toDigits number first (by simp [digits])
  rw [digits, List.cons_append] at read ⊢
  rw [readValue_digit digit, read]
  exact ⟨after, rfl⟩

theorem reads_negative (levels : Nat) {number : Nat}
    (fits : number < Nat.pow 2 63) :
    Reads (readValue levels) ('-' :: Nat.toDigits 10 (number + 1))
      (.number (.integer (.negSucc number))) := by
  intro rest offset ends
  have small : number + 1 < Nat.pow 2 64 := by
    simp only [Nat.pow_eq] at fits ⊢
    omega
  obtain ⟨after, read⟩ := readNumber_toDigits small true ends (offset + 1)
  have inRange : ¬(number + 1 = 0 ∨ Nat.pow 2 63 < number + 1) := by omega
  have notBlank := Cursor.not_isBlank_marks '-' (by simp)
  refine ⟨after, ?_⟩
  unfold readValue
  simp only [List.cons_append, Cursor.skipBlanks_cons notBlank, read,
    finishInteger, if_neg inRange]
  rfl

theorem Readable.starts {levels : Nat} {value : Value}
    (readable : Readable levels value) :
    ∃ first more, value.compact.toList = first :: more ∧
      Cursor.isBlank first = false ∧ first ≠ ']' := by
  cases readable with
  | null => exact ⟨'n', _, rfl, by decide, by decide⟩
  | bool flag =>
      cases flag with
      | true => exact ⟨'t', _, rfl, by decide, by decide⟩
      | false => exact ⟨'f', _, rfl, by decide, by decide⟩
  | @integer _ number =>
      cases number with
      | ofNat number =>
          obtain ⟨first, more, digits⟩ :=
            List.exists_cons_of_ne_nil (@Nat.toDigits_ne_nil number 10)
          have digit := @isDigit_of_mem_toDigits number first (by simp [digits])
          exact ⟨first, more, (toList_write_ofNat number).trans digits,
            Cursor.not_isBlank_of_isDigit digit,
            Cursor.ne_mark_of_isDigit digit ']' (by simp)⟩
      | negSucc number =>
          exact ⟨'-', _, toList_write_negSucc number, by decide, by decide⟩
  | string text =>
      exact ⟨'"', _, toList_quote text, by decide, by decide⟩
  | array => exact ⟨'[', _, toList_compact_array _, by decide, by decide⟩
  | object => exact ⟨'{', _, toList_compact_object _, by decide, by decide⟩

theorem reads_string (levels : Nat) (text : String) :
    Reads (readValue levels) (quote text).toList (.string text) := by
  intro rest offset _
  obtain ⟨after, read⟩ := readString_escaped text.toList [] rest (offset + 1)
  have notBlank := Cursor.not_isBlank_marks '"' (by simp)
  refine ⟨after, ?_⟩
  unfold readValue
  simp [toList_quote, Cursor.skipBlanks_cons notBlank, read, ok_bind, pure,
    Except.pure]

theorem reads_array {levels : Nat} {items : List Value}
    (starts : ∀ item ∈ items, ∃ first more,
      item.compact.toList = first :: more ∧
        Cursor.isBlank first = false ∧ first ≠ ']')
    (reads : ∀ item ∈ items,
      Reads (readValue levels) item.compact.toList item) :
    Reads (readValue (levels + 1)) (Value.array items).compact.toList
      (.array items) := by
  intro rest offset _
  have enough := length_lt_separated (·.compact.toList) items ']' rest
  obtain ⟨after, read⟩ := (readItems_rounds (readValue levels)).reads starts
    reads enough rest (offset + 1)
  have text : (Value.array items).compact.toList ++ rest =
      '[' :: (separated (·.compact.toList) items ++ ']' :: rest) := by
    simp [toList_compact_array]
  have notBlank := Cursor.not_isBlank_marks '[' (by simp)
  refine ⟨after, ?_⟩
  unfold readValue
  simp only [text, Cursor.skipBlanks_cons notBlank, read]
  rfl

theorem reads_object {levels : Nat} {members : List (String × Value)}
    (increasing : Increasing (members.map Prod.fst))
    (reads : ∀ member ∈ members,
      Reads (readValue levels) member.2.compact.toList member.2) :
    Reads (readValue (levels + 1)) (Value.object members).compact.toList
      (.object members) := by
  intro rest offset _
  have enough := length_lt_separated memberText members '}' rest
  obtain ⟨after, read⟩ := (readMembers_rounds (readValue levels)).reads
    (fun member _ => ⟨'"', _, by rw [memberText, toList_quote]; rfl, rfl⟩)
    (fun member listed => reads_member (reads member listed))
    enough rest (offset + 1)
  have text : (Value.object members).compact.toList ++ rest =
      '{' :: (separated memberText members ++ '}' :: rest) := by
    simp [toList_compact_object]
  have notBlank := Cursor.not_isBlank_marks '{' (by simp)
  refine ⟨after, ?_⟩
  unfold readValue
  simp only [text, Cursor.skipBlanks_cons notBlank, read, ok_bind,
    Value.ofMembers_of_increasing increasing]
  rfl

/-- The value is read from its text, and nothing more is taken. -/
theorem Readable.reads {levels : Nat} {value : Value}
    (readable : Readable levels value) :
    Reads (readValue levels) value.compact.toList value := by
  induction readable with
  | null =>
      intro rest offset _
      exact ⟨offset + 4, by unfold readValue; rfl⟩
  | bool flag =>
      intro rest offset _
      cases flag with
      | true => exact ⟨offset + 4, by unfold readValue; rfl⟩
      | false => exact ⟨offset + 5, by unfold readValue; rfl⟩
  | @integer levels number least fits =>
      cases number with
      | ofNat number =>
          rw [Value.compact, toList_write_ofNat]
          exact reads_natural levels (Int.ofNat_lt.mp fits)
      | negSucc number =>
          rw [Value.compact, toList_write_negSucc]
          exact reads_negative levels (by omega)
  | @string levels text =>
      rw [Value.compact]
      exact reads_string levels text
  | array each reads =>
      exact reads_array (fun item listed => (each item listed).starts) reads
  | object increasing each reads => exact reads_object increasing reads

/-- Reading the text that is written for a value gives the value. -/
theorem parseNested_compact {levels : Nat} {value : Value}
    (readable : Readable levels value) :
    parseNested levels value.compact = .ok value := by
  obtain ⟨after, read⟩ := readable.reads [] 0 (by simp [Ends])
  rw [List.append_nil] at read
  simp only [parseNested, read, ok_bind]
  rfl

end LockAudit.Json
