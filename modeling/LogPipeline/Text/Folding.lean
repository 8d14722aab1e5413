import LogPipeline.Text.Lowercase

/-!
# Case folding

The simple case folding of Unicode, which maps all case forms of a character to one of them.
-/

namespace LogPipeline.Text

/-- The characters whose folding is not their lower case, as runs. -/
def foldingRuns : List CaseRun :=
  [
    ⟨0xB5, 0xB5, 1, 775⟩, ⟨0x17F, 0x17F, 1, -268⟩, ⟨0x345, 0x345, 1, 116⟩, ⟨0x3C2, 0x3C2, 1, 1⟩,
    ⟨0x3D0, 0x3D0, 1, -30⟩, ⟨0x3D1, 0x3D1, 1, -25⟩, ⟨0x3D5, 0x3D5, 1, -15⟩, ⟨0x3D6, 0x3D6, 1, -22⟩,
    ⟨0x3F0, 0x3F0, 1, -54⟩, ⟨0x3F1, 0x3F1, 1, -48⟩, ⟨0x3F5, 0x3F5, 1, -64⟩, ⟨0x13A0, 0x13F5, 1, 0⟩,
    ⟨0x13F8, 0x13FD, 1, -8⟩, ⟨0x1C80, 0x1C80, 1, -6222⟩, ⟨0x1C81, 0x1C81, 1, -6221⟩,
    ⟨0x1C82, 0x1C82, 1, -6212⟩, ⟨0x1C83, 0x1C84, 1, -6210⟩, ⟨0x1C85, 0x1C85, 1, -6211⟩,
    ⟨0x1C86, 0x1C86, 1, -6204⟩, ⟨0x1C87, 0x1C87, 1, -6180⟩, ⟨0x1C88, 0x1C88, 1, 35267⟩,
    ⟨0x1E9B, 0x1E9B, 1, -58⟩, ⟨0x1FBE, 0x1FBE, 1, -7173⟩, ⟨0x1FD3, 0x1FD3, 1, -7235⟩,
    ⟨0x1FE3, 0x1FE3, 1, -7219⟩, ⟨0xAB70, 0xABBF, 1, -38864⟩, ⟨0xFB05, 0xFB05, 1, 1⟩
  ]

def runOf? (runs : List CaseRun) (n : Nat) : Option CaseRun :=
  runs.find? fun r => r.first ≤ n && n ≤ r.last && (n - r.first) % r.stride == 0

def foldCase (c : Char) : Char :=
  match runOf? foldingRuns c.toNat with
  | some r => Char.ofNat (c.toNat + r.shift).toNat
  | none =>
    match lowerChar c with
    | [d] => d
    | _ => c

def sources (runs : List CaseRun) (n : Nat) : List Nat :=
  runs.filterMap fun r =>
    let m := (n - r.shift : Int).toNat
    if r.first ≤ m && m ≤ r.last && (m - r.first) % r.stride == 0 then some m else none

def caseForms (c : Char) : List Char :=
  let folded := foldCase c
  let n := folded.toNat
  let others := folded.toUpper.toNat :: (sources foldingRuns n ++ sources lowercaseRuns n)
  folded :: (others.map Char.ofNat).filter fun d => foldCase d = folded

end LogPipeline.Text
