import AgentWire.Proofs.Documents
import AgentWire.Proofs.NumberText
import AgentWire.Proofs.StringText

/-! Text in ASCII: lines of printable characters. Numbers are always printable, and so are strings
wherever other characters are escaped; a written value then has line breaks only where its layout
puts them. -/
namespace AgentWire

/-- A printable character of ASCII. -/
def IsPrintableAscii (c : Char) : Prop :=
  0x20 ≤ c.toNat ∧ c.toNat < 0x7F

instance (c : Char) : Decidable (IsPrintableAscii c) :=
  inferInstanceAs (Decidable (_ ∧ _))

/-- A character of a line in ASCII, or the end of one. -/
def IsAscii (c : Char) : Prop :=
  c = '\n' ∨ 0x20 ≤ c.toNat ∧ c.toNat < 0x7F

instance (c : Char) : Decidable (IsAscii c) :=
  inferInstanceAs (Decidable (_ ∨ _))

def AsciiText (cs : List Char) : Prop :=
  ∀ c ∈ cs, IsAscii c

instance (cs : List Char) : Decidable (AsciiText cs) :=
  List.decidableBAll IsAscii cs

theorem IsAscii.lt {c : Char} (ascii : IsAscii c) : c.toNat < 0x7F := by
  rcases ascii with rfl | ⟨_, high⟩
  · decide
  · exact high

namespace AsciiText

@[simp] theorem nil : AsciiText [] := by
  intro c inside
  cases inside

@[simp] theorem append_iff {a b : List Char} : AsciiText (a ++ b) ↔ AsciiText a ∧ AsciiText b :=
  List.forall_mem_append

@[simp] theorem cons_iff {c : Char} {cs : List Char} :
    AsciiText (c :: cs) ↔ IsAscii c ∧ AsciiText cs :=
  List.forall_mem_cons

theorem replicate {c : Char} (ascii : IsAscii c) (n : Nat) : AsciiText (List.replicate n c) := by
  intro d inside
  rw [List.eq_of_mem_replicate inside]
  exact ascii

end AsciiText

def PrintableText (cs : List Char) : Prop :=
  ∀ c ∈ cs, IsPrintableAscii c

instance (cs : List Char) : Decidable (PrintableText cs) :=
  List.decidableBAll IsPrintableAscii cs

namespace PrintableText

@[simp] theorem nil : PrintableText [] := by
  intro c inside
  cases inside

@[simp] theorem append_iff {a b : List Char} :
    PrintableText (a ++ b) ↔ PrintableText a ∧ PrintableText b :=
  List.forall_mem_append

@[simp] theorem cons_iff {c : Char} {cs : List Char} :
    PrintableText (c :: cs) ↔ IsPrintableAscii c ∧ PrintableText cs :=
  List.forall_mem_cons

theorem zeros (n : Nat) : PrintableText (List.replicate n '0') := by
  intro c inside
  rw [List.eq_of_mem_replicate inside]
  decide

theorem flatMap {α : Type} {as : List α} {f : α → List Char}
    (each : ∀ a ∈ as, PrintableText (f a)) :
    PrintableText (as.flatMap f) := by
  intro c inside
  obtain ⟨a, here, there⟩ := List.mem_flatMap.mp inside
  exact each a here c there

theorem take {cs : List Char} (printable : PrintableText cs) (n : Nat) :
    PrintableText (cs.take n) :=
  fun c inside => printable c (List.mem_of_mem_take inside)

theorem drop {cs : List Char} (printable : PrintableText cs) (n : Nat) :
    PrintableText (cs.drop n) :=
  fun c inside => printable c (List.mem_of_mem_drop inside)

end PrintableText

theorem isPrintableAscii_of_digit {c : Char} (digit : c.isDigit = true) : IsPrintableAscii c := by
  have bounds : 48 ≤ c.toNat ∧ c.toNat ≤ 57 := by
    simpa [Char.isDigit, UInt32.le_iff_toNat_le] using digit
  exact ⟨by omega, by omega⟩

theorem isAscii_of_digit {c : Char} (digit : c.isDigit = true) : IsAscii c :=
  .inr (isPrintableAscii_of_digit digit)

theorem isPrintableAscii_digitChar : ∀ k < 16, IsPrintableAscii (Nat.digitChar k) := by decide

/-! Numbers. -/

namespace NumberText

theorem toDigits_printable (n : Nat) : PrintableText (Nat.toDigits 10 n) :=
  fun c inside => isPrintableAscii_of_digit (toDigits_isDigit c inside)

theorem padded_printable (width n : Nat) : PrintableText (padded width n) := by
  unfold padded
  exact PrintableText.append_iff.mpr ⟨.zeros _, toDigits_printable n⟩

theorem positional_printable {ds : List Char} (digits : PrintableText ds) (k : Int) :
    PrintableText (positional ds k) := by
  have zero : IsPrintableAscii '0' := by decide
  have point : IsPrintableAscii '.' := by decide
  unfold positional
  split
  · simp [PrintableText.zeros, digits, zero, point]
  · split
    · simp [PrintableText.zeros, digits, zero, point]
    · simp [digits.take, digits.drop, point]

theorem layOut_printable (l : Layout) (d : Decimal) : PrintableText (layOut l d) := by
  have digits := toDigits_printable d.digits
  unfold layOut
  dsimp only
  split
  · exact positional_printable digits _
  · have power (lead : Int) :
        PrintableText ('e' :: (if lead < 0 then '-' else '+') ::
          padded l.exponentWidth lead.natAbs) := by
      have sign : IsPrintableAscii (if lead < 0 then '-' else '+') := by
        split <;> decide
      simp [sign, padded_printable, show IsPrintableAscii 'e' by decide]
    refine PrintableText.append_iff.mpr ⟨?_, power _⟩
    split
    · exact .nil
    · rename_i one
      rwa [one] at digits
    · rename_i many
      rw [many] at digits
      simp_all [show IsPrintableAscii '.' by decide]

theorem finite_printable (x : Float) : PrintableText (finite x) := by
  unfold finite
  refine PrintableText.append_iff.mpr ⟨?_, layOut_printable _ _⟩
  split <;> decide

end NumberText

namespace Json

theorem unicodeEscape_printable {n : Nat} (unit : n < 0x10000) :
    PrintableText (unicodeEscape n) := by
  have digit (k : Nat) (small : k < 16) := isPrintableAscii_digitChar k small
  have mark : IsPrintableAscii '\\' ∧ IsPrintableAscii 'u' := by decide
  simp only [unicodeEscape, hex4_eq unit, PrintableText.cons_iff, PrintableText.nil,
    and_true, mark, true_and]
  exact ⟨digit _ (by omega), digit _ (by omega), digit _ (by omega), digit _ (by omega)⟩

theorem writeChar_printable (c : Char) : PrintableText (writeChar true c) := by
  by_cases short : c ∈ shortEscapes.map (·.1)
  · obtain ⟨p, inside, rfl⟩ := List.mem_map.mp short
    rw [writeChar_short true p inside]
    have each : ∀ p ∈ shortEscapes, PrintableText ['\\', p.2] := by decide
    exact each p inside
  · have bound := toNat_lt c
    rw [writeChar_long true short]
    split
    · exact unicodeEscape_printable (by omega)
    · rename_i low
      split
      · rename_i high
        simp only [Bool.not_true, Bool.false_or, decide_eq_true_eq] at high
        simp only [PrintableText.cons_iff, PrintableText.nil, and_true]
        exact ⟨by omega, high⟩
      · split
        · rename_i unit
          exact unicodeEscape_printable unit
        · exact PrintableText.append_iff.mpr
            ⟨unicodeEscape_printable (by omega), unicodeEscape_printable (by omega)⟩

theorem writeString_printable (s : String) : PrintableText (writeString true s) := by
  have quote : IsPrintableAscii '"' := by decide
  simp [writeString, quote, PrintableText.flatMap fun c _ => writeChar_printable c]

theorem writeInt_printable (i : Int) : PrintableText (writeInt i) := by
  unfold writeInt
  refine PrintableText.append_iff.mpr ⟨?_, NumberText.toDigits_printable _⟩
  split <;> decide

theorem writeFloat_printable (x : Float) : PrintableText (writeFloat x) := by
  unfold writeFloat
  split
  · decide
  · split
    · exact NumberText.finite_printable x
    · split <;> decide

/-! Values. -/

section Written

variable {P : Char → Prop} {layout : Layout} (printable : ∀ c, IsPrintableAscii c → P c)
  (breaks : ∀ level, ∀ c ∈ breakLine layout level, P c)
include printable breaks

theorem forall_comma (level : Nat) : ∀ c ∈ comma layout level, P c := by
  cases layout with
  | line => exact fun c inside => printable c ((by decide : PrintableText [',', ' ']) c inside)
  | compact => exact fun c inside => printable c ((by decide : PrintableText [',']) c inside)
  | indented step => exact List.forall_mem_cons.mpr ⟨printable ',' (by decide), breaks level⟩

omit breaks in
theorem forall_colon : ∀ c ∈ colon layout, P c := by
  have text : PrintableText (colon layout) := by
    cases layout with
    | compact => exact (by decide : PrintableText [':'])
    | _ => exact (by decide : PrintableText [':', ' '])
  exact fun c inside => printable c (text c inside)

/-- With escapes a text holds printable characters and line breaks, whatever its value holds. -/
theorem forall_write (level : Nat) (j : Json) : ∀ c ∈ write ⟨layout, true⟩ level j, P c := by
  have shown {cs : List Char} (text : PrintableText cs) : ∀ c ∈ cs, P c :=
    fun c inside => printable c (text c inside)
  have commas := forall_comma printable breaks
  have colons : ∀ c ∈ colon layout, P c := forall_colon printable
  induction j using Json.by_parts generalizing level with
  | whole j items_hold members_hold =>
    cases j with
    | null => exact shown (by decide : PrintableText "null".toList)
    | bool b =>
      rw [write]
      cases b
      · exact shown (by decide)
      · exact shown (by decide)
    | int i => exact shown (writeInt_printable i)
    | num x => exact shown (writeFloat_printable x)
    | str s => exact shown (writeString_printable s)
    | arr items =>
      have rest_hold : ∀ (rest : List Json),
          (∀ x ∈ rest, ∀ level, ∀ c ∈ write ⟨layout, true⟩ level x, P c) →
            ∀ c ∈ writeItems ⟨layout, true⟩ (level + 1) rest, P c := by
        intro rest each
        induction rest with
        | nil => exact shown .nil
        | cons x rest ih =>
          rw [List.forall_mem_cons] at each
          rw [writeItems, List.forall_mem_append, List.forall_mem_append]
          exact ⟨⟨commas _, each.1 _⟩, ih each.2⟩
      cases items with
      | nil => exact shown (by decide : PrintableText ['[', ']'])
      | cons x rest =>
        have first := items_hold x (List.mem_cons_self ..)
        have rest := rest_hold rest fun y inside => items_hold y (List.mem_cons_of_mem _ inside)
        rw [write]
        simp only [List.forall_mem_cons, List.forall_mem_append]
        exact ⟨printable _ (by decide), ⟨⟨⟨breaks _, first _⟩, rest⟩, breaks _⟩,
          printable _ (by decide), shown .nil⟩
    | obj members =>
      have rest_hold : ∀ (rest : List (String × Json)),
          (∀ m ∈ rest, ∀ level, ∀ c ∈ write ⟨layout, true⟩ level m.2, P c) →
          ∀ c ∈ writeMembers ⟨layout, true⟩ (level + 1) rest, P c := by
        intro rest each
        induction rest with
        | nil => exact shown .nil
        | cons m rest ih =>
          rw [List.forall_mem_cons] at each
          rw [writeMembers]
          simp only [List.forall_mem_append]
          exact ⟨⟨⟨⟨commas _, shown (writeString_printable _)⟩, colons⟩, each.1 _⟩, ih each.2⟩
      cases members with
      | nil => exact shown (by decide : PrintableText ['\x7b', '\x7d'])
      | cons m rest =>
        have first := members_hold m (List.mem_cons_self ..)
        have rest := rest_hold rest fun y inside => members_hold y (List.mem_cons_of_mem _ inside)
        rw [write]
        simp only [List.forall_mem_cons, List.forall_mem_append]
        exact ⟨printable _ (by decide),
          ⟨⟨⟨⟨⟨breaks _, shown (writeString_printable _)⟩, colons⟩, first _⟩, rest⟩, breaks _⟩,
          printable _ (by decide), shown .nil⟩

end Written

theorem breakLine_ascii (layout : Layout) (level : Nat) : AsciiText (breakLine layout level) := by
  unfold breakLine
  split
  · exact AsciiText.cons_iff.mpr ⟨by decide, .replicate (by decide) _⟩
  · exact .nil

theorem write_ascii (layout : Layout) (level : Nat) (j : Json) :
    AsciiText (write ⟨layout, true⟩ level j) :=
  forall_write (fun _ => .inr) (breakLine_ascii layout) level j

/-- On one line nothing but printable characters is left. -/
theorem write_printable {layout : Layout} (oneLine : ∀ level, breakLine layout level = [])
    (level : Nat) (j : Json) :
    PrintableText (write ⟨layout, true⟩ level j) := by
  refine forall_write (fun _ printable => printable) (fun level c inside => ?_) level j
  rw [oneLine] at inside
  cases inside

end Json

end AgentWire
