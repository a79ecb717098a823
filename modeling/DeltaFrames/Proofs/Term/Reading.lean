import DeltaFrames.Proofs.SExpr
import DeltaFrames.Term.Names
import DeltaFrames.Term.Printer

/-!
# Reading printed terms

Printing forgets which connectives of fewer than two operands a term contains, and that is all it
forgets: terms whose variables can be told from literals are printed alike exactly if they have the
same normal form, and a reader recovers that form from the text
(`Term.printed_terms_are_unambiguous`). The first atom of a list is always an operator and every
other atom a variable or a literal, so a variable may be named like an operator. With a single
operand, `-` is the sign of a literal.
-/

namespace DeltaFrames

open SExpr (IsAtom isPlain)

namespace Term

def joined (connective : Connective) : List Term → Term
  | [] => .bool connective.neutral
  | [operand] => operand
  | operands => .nary connective operands

mutual

def normalize : Term → Term
  | .var name => .var name
  | .int value => .int value
  | .bool value => .bool value
  | .binary op left right => .binary op left.normalize right.normalize
  | .nary connective operands => joined connective (normalizeAll operands)
  | .not operand => .not operand.normalize
  | .ite condition consequent alternative =>
      .ite condition.normalize consequent.normalize alternative.normalize

def normalizeAll : List Term → List Term
  | [] => []
  | term :: rest => term.normalize :: normalizeAll rest

end

theorem toSExpr_joined (connective : Connective) (operands : List Term) :
    (joined connective operands).toSExpr = applyConnective connective (toSExprs operands) := by
  match operands with
  | [] => rfl
  | [operand] => rfl
  | first :: second :: rest => rfl

mutual

theorem toSExpr_normalize (term : Term) : term.normalize.toSExpr = term.toSExpr := by
  cases term with
  | var name => rfl
  | int value => rfl
  | bool value => rfl
  | binary op left right =>
      simp only [normalize, toSExpr, toSExpr_normalize left, toSExpr_normalize right]
  | nary connective operands =>
      simp only [normalize, toSExpr, toSExpr_joined, toSExprs_normalizeAll operands]
  | not operand => simp only [normalize, toSExpr, toSExpr_normalize operand]
  | ite condition consequent alternative =>
      simp only [normalize, toSExpr, toSExpr_normalize condition, toSExpr_normalize consequent,
        toSExpr_normalize alternative]

theorem toSExprs_normalizeAll (terms : List Term) :
    toSExprs (normalizeAll terms) = toSExprs terms := by
  cases terms with
  | nil => rfl
  | cons term rest =>
      simp only [normalizeAll, toSExprs, toSExpr_normalize term, toSExprs_normalizeAll rest]

end

theorem print_normalize (term : Term) : term.normalize.print = term.print :=
  congrArg SExpr.print term.toSExpr_normalize

end Term

/-! ## The reader -/

def ofDecimal (text : String) : Option Nat :=
  if text.toList.all Char.isDigit then some (Nat.ofDigitChars 10 text.toList 0) else none

def BinaryOp.all : List BinaryOp :=
  [.arithmetic .add, .arithmetic .sub, .arithmetic .mul, .comparison .lt, .comparison .le,
    .comparison .gt, .comparison .ge, .eq, .implies]

def BinaryOp.ofSymbol (symbol : String) : Option BinaryOp :=
  BinaryOp.all.find? fun op => op.symbol = symbol

def Connective.ofSymbol (symbol : String) : Option Connective :=
  [Connective.and, Connective.or].find? fun connective => connective.symbol = symbol

theorem BinaryOp.mem_all (op : BinaryOp) : op ∈ BinaryOp.all := by
  cases op with
  | arithmetic op => cases op <;> decide
  | comparison op => cases op <;> decide
  | eq => decide
  | implies => decide

@[simp] theorem BinaryOp.ofSymbol_symbol (op : BinaryOp) : ofSymbol op.symbol = some op := by
  have each : ∀ op ∈ BinaryOp.all, ofSymbol op.symbol = some op := by decide
  exact each op op.mem_all

@[simp] theorem Connective.ofSymbol_symbol (connective : Connective) :
    ofSymbol connective.symbol = some connective := by
  cases connective <;> decide

@[simp] theorem Connective.ofSymbol_binary (op : BinaryOp) : ofSymbol op.symbol = none := by
  have each : ∀ op ∈ BinaryOp.all, Connective.ofSymbol op.symbol = none := by decide
  exact each op op.mem_all

namespace Term

def ofInt (value : Int) : Option Term :=
  if (Int64.ofInt value).toInt = value then some (.int (Int64.ofInt value)) else none

def ofAtom (text : String) : Option Term :=
  if text = "true" then some (.bool true)
  else if text = "false" then some (.bool false)
  else
    match ofDecimal text with
    | some magnitude => ofInt magnitude
    | none => some (.var text)

def ofNegative (operator : String) : List SExpr → Option Term
  | [.atom text] => if operator = "-" then do ofInt (-(← ofDecimal text)) else none
  | _ => none

def ofApplication (operator : String) : List Term → Option Term
  | [] => none
  | [operand] => if operator = "not" then some (.not operand) else none
  | first :: second :: rest =>
      match Connective.ofSymbol operator, rest with
      | some connective, _ => some (.nary connective (first :: second :: rest))
      | none, [] => (BinaryOp.ofSymbol operator).map fun op => .binary op first second
      | none, [third] => if operator = "ite" then some (.ite first second third) else none
      | none, _ => none

mutual

def ofSExpr : SExpr → Option Term
  | .atom text => ofAtom text
  | .list (.atom operator :: operands) =>
      match ofNegative operator operands with
      | some term => some term
      | none => do ofApplication operator (← ofSExprs operands)
  | .list _ => none

def ofSExprs : List SExpr → Option (List Term)
  | [] => some []
  | item :: rest => do
      let term ← ofSExpr item
      let terms ← ofSExprs rest
      return term :: terms

end

def read (text : String) : Option Term := do
  ofSExpr (← SExpr.read text)

structure ReadableName (name : String) : Prop where
  isAtom : IsAtom name
  ne_true : name ≠ "true"
  ne_false : name ≠ "false"
  not_digits : name.toList.all Char.isDigit = false

def Readable (term : Term) : Prop :=
  ∀ name ∈ term.occurrences, ReadableName name

theorem readable_var {name : String} : (var name).Readable ↔ ReadableName name := by
  simp [Readable, occurrences]

theorem readable_binary {op : BinaryOp} {left right : Term} :
    (binary op left right).Readable ↔ left.Readable ∧ right.Readable :=
  List.forall_mem_append

theorem readable_ite {condition consequent alternative : Term} :
    (ite condition consequent alternative).Readable ↔
      (condition.Readable ∧ consequent.Readable) ∧ alternative.Readable := by
  simp only [Readable, occurrences, List.forall_mem_append]

theorem ReadableName.ofAtom {name : String} (readable : ReadableName name) :
    Term.ofAtom name = some (.var name) := by
  simp [Term.ofAtom, ofDecimal, readable.ne_true, readable.ne_false, readable.not_digits]

/-! ## Literals -/

theorem isPlain_of_isDigit {c : Char} (digit : c.isDigit) : isPlain c := by
  have excluded : ∀ other : Char, other.isDigit = false → c ≠ other := by
    rintro other notDigit rfl
    simp [digit] at notDigit
  simp [isPlain, Char.isWhitespace, excluded ' ' rfl, excluded '\t' rfl, excluded '\r' rfl,
    excluded '\n' rfl, excluded '(' rfl, excluded ')' rfl]

theorem digits_of_repr (n : Nat) : n.repr.toList.all Char.isDigit = true := by
  rw [Nat.toList_repr, List.all_eq_true]
  exact fun c member => Nat.isDigit_of_mem_toDigits (by decide) (by decide) member

theorem isAtom_repr (n : Nat) : IsAtom n.repr := by
  have digits := List.all_eq_true.1 (digits_of_repr n)
  constructor
  · exact Nat.repr_ne_empty
  · exact List.all_eq_true.2 fun c member => isPlain_of_isDigit (digits c member)

theorem ofDecimal_repr (n : Nat) : ofDecimal n.repr = some n := by
  rw [ofDecimal, if_pos (digits_of_repr n), Nat.toList_repr,
    Nat.ofDigitChars_toDigits (by decide) (by decide)]

theorem ofInt_toInt (value : Int64) : ofInt value.toInt = some (.int value) := by
  simp [ofInt]

theorem ofAtom_repr (n : Nat) : ofAtom n.repr = ofInt n := by
  have digits := digits_of_repr n
  have notTrue : n.repr ≠ "true" := by
    intro same
    simp [same] at digits
  have notFalse : n.repr ≠ "false" := by
    intro same
    simp [same] at digits
  simp only [ofAtom, notTrue, notFalse, if_false, ofDecimal_repr]

theorem ofSExpr_intLiteral (value : Int64) : ofSExpr (intLiteral value) = some (.int value) := by
  unfold intLiteral
  split
  · next negative =>
      have below := Int64.lt_iff_toInt_lt.1 negative
      have magnitude : -((value.toInt.natAbs : Int)) = value.toInt := by
        rw [Int64.toInt_zero] at below
        omega
      simp only [ofSExpr, ofNegative, ofDecimal_repr, if_true, Option.bind_eq_bind,
        Option.bind_some, magnitude, ofInt_toInt]
  · next notNegative =>
      have above := mt Int64.lt_iff_toInt_lt.2 notNegative
      have magnitude : (value.toInt.natAbs : Int) = value.toInt := by
        rw [Int64.toInt_zero] at above
        omega
      simp only [ofSExpr, ofAtom_repr, magnitude, ofInt_toInt]

theorem ofSExpr_boolLiteral (value : Bool) : ofSExpr (boolLiteral value) = some (.bool value) := by
  cases value <;> rfl

/-! ## Applications -/

theorem ofNegative_not (operand : SExpr) : ofNegative "not" [operand] = none := by
  cases operand <;> rfl

theorem ofNegative_several (operator : String) (first second : SExpr) (rest : List SExpr) :
    ofNegative operator (first :: second :: rest) = none := by
  cases first <;> rfl

theorem ofSExpr_application {operator : String} {operands : List SExpr} {terms : List Term}
    (notNegative : ofNegative operator operands = none)
    (each : ofSExprs operands = some terms) :
    ofSExpr (.list (.atom operator :: operands)) = ofApplication operator terms := by
  simp [ofSExpr, notNegative, each]

theorem ofApplication_binary (op : BinaryOp) (left right : Term) :
    ofApplication op.symbol [left, right] = some (.binary op left right) := by
  simp [ofApplication]

theorem ofApplication_nary (connective : Connective) (first second : Term) (rest : List Term) :
    ofApplication connective.symbol (first :: second :: rest) =
      some (.nary connective (first :: second :: rest)) := by
  simp [ofApplication]

mutual

theorem ofSExpr_toSExpr (term : Term) (readable : term.Readable) :
    ofSExpr term.toSExpr = some term.normalize := by
  cases term with
  | var name =>
      simpa [toSExpr, ofSExpr, normalize] using (readable_var.1 readable).ofAtom
  | int value => exact ofSExpr_intLiteral value
  | bool value => exact ofSExpr_boolLiteral value
  | binary op left right =>
      have ⟨first, second⟩ := readable_binary.1 readable
      have each :
          ofSExprs [left.toSExpr, right.toSExpr] = some [left.normalize, right.normalize] := by
        simp [ofSExprs, ofSExpr_toSExpr left first, ofSExpr_toSExpr right second]
      exact (ofSExpr_application (ofNegative_several ..) each).trans (ofApplication_binary op _ _)
  | nary connective operands =>
      have each := ofSExprs_toSExprs operands readable
      match operands with
      | [] => exact ofSExpr_boolLiteral connective.neutral
      | [operand] =>
          simp only [Readable, occurrences, occurrencesAll, List.append_nil] at readable
          exact ofSExpr_toSExpr operand readable
      | first :: second :: rest =>
          exact (ofSExpr_application (ofNegative_several ..) each).trans
            (ofApplication_nary connective _ _ _)
  | not operand =>
      have each : ofSExprs [operand.toSExpr] = some [operand.normalize] := by
        simp [ofSExprs, ofSExpr_toSExpr operand readable]
      exact ofSExpr_application (ofNegative_not _) each
  | ite condition consequent alternative =>
      have ⟨⟨first, second⟩, third⟩ := readable_ite.1 readable
      have each : ofSExprs [condition.toSExpr, consequent.toSExpr, alternative.toSExpr] =
          some [condition.normalize, consequent.normalize, alternative.normalize] := by
        simp [ofSExprs, ofSExpr_toSExpr condition first, ofSExpr_toSExpr consequent second,
          ofSExpr_toSExpr alternative third]
      exact ofSExpr_application (ofNegative_several ..) each

theorem ofSExprs_toSExprs (terms : List Term)
    (readable : ∀ name ∈ occurrencesAll terms, ReadableName name) :
    ofSExprs (toSExprs terms) = some (normalizeAll terms) := by
  cases terms with
  | nil => rfl
  | cons term rest =>
      simp only [occurrencesAll, List.forall_mem_append] at readable
      simp [toSExprs, ofSExprs, normalizeAll, ofSExpr_toSExpr term readable.1,
        ofSExprs_toSExprs rest readable.2]

end

theorem wellFormed_boolLiteral (value : Bool) : (boolLiteral value).WellFormed := by
  cases value <;> exact .atom (by decide)

theorem wellFormed_intLiteral (value : Int64) : (intLiteral value).WellFormed := by
  have sign : IsAtom "-" := by decide
  have magnitude := isAtom_repr value.toInt.natAbs
  unfold intLiteral
  split <;> simp [sign, magnitude]

theorem wellFormed_applyConnective (connective : Connective) {operands : List SExpr}
    (each : ∀ operand ∈ operands, operand.WellFormed) :
    (applyConnective connective operands).WellFormed := by
  have symbol : IsAtom connective.symbol := by cases connective <;> decide
  match operands with
  | [] => exact wellFormed_boolLiteral connective.neutral
  | [operand] => exact each operand (by simp)
  | first :: second :: rest => simpa [applyConnective, symbol] using each

mutual

theorem wellFormed_toSExpr (term : Term) (readable : term.Readable) :
    term.toSExpr.WellFormed := by
  cases term with
  | var name => exact .atom (readable_var.1 readable).isAtom
  | int value => exact wellFormed_intLiteral value
  | bool value => exact wellFormed_boolLiteral value
  | binary op left right =>
      have ⟨first, second⟩ := readable_binary.1 readable
      have symbols : ∀ op ∈ BinaryOp.all, IsAtom op.symbol := by decide
      simp [toSExpr, symbols op op.mem_all, wellFormed_toSExpr left first,
        wellFormed_toSExpr right second]
  | nary connective operands =>
      exact wellFormed_applyConnective connective (wellFormed_toSExprs operands readable)
  | not operand =>
      have symbol : IsAtom "not" := by decide
      simp [toSExpr, symbol, wellFormed_toSExpr operand readable]
  | ite condition consequent alternative =>
      have ⟨⟨first, second⟩, third⟩ := readable_ite.1 readable
      have symbol : IsAtom "ite" := by decide
      simp [toSExpr, symbol, wellFormed_toSExpr condition first,
        wellFormed_toSExpr consequent second, wellFormed_toSExpr alternative third]

theorem wellFormed_toSExprs (terms : List Term)
    (readable : ∀ name ∈ occurrencesAll terms, ReadableName name) :
    ∀ item ∈ toSExprs terms, item.WellFormed := by
  cases terms with
  | nil => simp [toSExprs]
  | cons term rest =>
      simp only [occurrencesAll, List.forall_mem_append] at readable
      simpa [toSExprs, wellFormed_toSExpr term readable.1] using
        wellFormed_toSExprs rest readable.2

end

/-! ## Reading what was printed -/

theorem read_print (term : Term) (readable : term.Readable) :
    read term.print = some term.normalize := by
  simp [read, print, SExpr.read_print (wellFormed_toSExpr term readable),
    ofSExpr_toSExpr term readable]

/-- Readable terms have the same text exactly if they differ in connectives of fewer than two
operands only, and the text gives the normal form back. Every literal is covered, down to the least
word, whose magnitude is no word itself. -/
theorem printed_terms_are_unambiguous (t u : Term) (first : t.Readable) (second : u.Readable) :
    (t.print = u.print ↔ t.normalize = u.normalize) ∧ read t.print = some t.normalize := by
  refine ⟨⟨?_, ?_⟩, read_print t first⟩
  · intro same
    have : some t.normalize = some u.normalize := by
      rw [← read_print t first, same, read_print u second]
    exact Option.some.inj this
  · intro same
    rw [← print_normalize t, same, print_normalize]

theorem wrapped_least_word_is_unambiguous :
    let difference := Term.binary (.arithmetic .sub) (.var "-") (.int Int64.minValue)
    let wrapped := Term.nary .and [.nary .or [difference]]
    wrapped.Readable ∧ difference.Readable ∧
      wrapped.print = "(- - (- 9223372036854775808))" ∧ wrapped.print = difference.print ∧
        read wrapped.print = some difference := by
  intro difference wrapped
  have readable : difference.Readable := by
    simp only [difference, readable_binary, readable_var]
    exact ⟨⟨by decide, by decide, by decide, by decide⟩, by simp [Readable, occurrences]⟩
  have ⟨alike, recovered⟩ := printed_terms_are_unambiguous wrapped difference readable readable
  exact ⟨readable, readable, rfl, alike.2 rfl, recovered⟩

/-- Names that look like literals are read as literals. -/
example : (var "7").print = (int 7).print ∧ (var "7").normalize ≠ (int 7).normalize := by decide

end Term

/-! ## Scripts -/

def declareLine : String × TermSort → String
  | (name, .bool) => "(declare-fun " ++ name ++ " () Bool)\n"
  | (name, .int) => "(declare-fun " ++ name ++ " () Int)\n"

def assertLine (term : Term) : String :=
  "(assert " ++ term.print ++ ")\n"

/-- The script has these lines, and what it asserts can be read from them. -/
structure Shows (declarations : Declarations) (assertions : List Term) (script : String) :
    Prop where
  lines : script = String.join
    (declarations.map declareLine ++ assertions.map assertLine ++ ["(check-sat)\n"])
  reads : ∀ term ∈ assertions, term.Readable → Term.read term.print = some term.normalize

theorem declareLine_eq (entry : String × TermSort) :
    declareLine entry = "(declare-fun " ++ entry.1 ++ " () " ++ entry.2.print ++ ")\n" := by
  obtain ⟨name, sort⟩ := entry
  cases sort with
  | bool => simp [declareLine, TermSort.print, String.append_assoc]
  | int => simp [declareLine, TermSort.print, String.append_assoc]

theorem satisfiabilityScript_shows (declarations : Declarations) (assertions : List Term) :
    Shows declarations assertions (satisfiabilityScript declarations assertions) where
  lines := by
    rw [List.map_congr_left fun entry _ => declareLine_eq entry, String.join_append,
      String.join_append, String.join_cons, String.join_nil, String.append_empty]
    rfl
  reads term _ := Term.read_print term

end DeltaFrames
