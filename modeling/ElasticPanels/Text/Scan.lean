/-!
# Scanning a text for marks

`scan find? width` reads a text from the left: where `find?` finds a mark at the head of the
remaining text, the mark is taken whole and scanning goes on after its `width` characters, otherwise
one character is passed on.
-/

namespace ElasticPanels.Text

/-- A piece of a scanned text. -/
inductive Piece (α : Type)
  | plain (c : Char)
  | mark (a : α)
  deriving DecidableEq, Repr

variable {α : Type}

/-- Scans a text after passing over its first `skipped` characters, which a mark has taken. -/
def scanFrom (find? : List Char → Option α) (width : α → Nat) : Nat → List Char → List (Piece α)
  | _, [] => []
  | skipped + 1, _ :: rest => scanFrom find? width skipped rest
  | 0, c :: rest =>
    match find? (c :: rest) with
    | some a => .mark a :: scanFrom find? width (width a - 1) rest
    | none => .plain c :: scanFrom find? width 0 rest

/-- The marks of a text and the characters between them. -/
def scan (find? : List Char → Option α) (width : α → Nat) (cs : List Char) : List (Piece α) :=
  scanFrom find? width 0 cs

/-- The text that the pieces make when each mark is written by `write`. -/
def assemble (write : α → List Char) (pieces : List (Piece α)) : List Char :=
  pieces.flatMap fun
    | .plain c => [c]
    | .mark a => write a

theorem scanFrom_eq_drop (find? : List Char → Option α) (width : α → Nat) (skipped : Nat)
    (cs : List Char) : scanFrom find? width skipped cs = scan find? width (cs.drop skipped) := by
  induction cs generalizing skipped with
  | nil => cases skipped <;> rfl
  | cons c rest ih =>
    cases skipped with
    | zero => rfl
    | succ n => simpa [scanFrom] using ih n

theorem scan_cons_of_none {find? : List Char → Option α} (width : α → Nat) {c : Char}
    {rest : List Char} (h : find? (c :: rest) = none) :
    scan find? width (c :: rest) = .plain c :: scan find? width rest := by
  simp [scan, scanFrom, h]

theorem scan_cons_of_some {find? : List Char → Option α} {width : α → Nat} {a : α} {c : Char}
    {rest : List Char} (h : find? (c :: rest) = some a) (hw : 0 < width a) :
    scan find? width (c :: rest) = .mark a :: scan find? width ((c :: rest).drop (width a)) := by
  obtain ⟨n, hn⟩ : ∃ n, width a = n + 1 := ⟨width a - 1, by omega⟩
  have step : scan find? width (c :: rest) =
      .mark a :: scanFrom find? width (width a - 1) rest := by
    simp only [scan, scanFrom, h]
  rw [step, scanFrom_eq_drop, hn]
  rfl

end ElasticPanels.Text
