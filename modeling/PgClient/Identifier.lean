/-
Names in a statement: in double quotes, with a quote inside a name written twice.

The reader starts behind the opening quote, takes a quote written twice for one,
and stops at the first that stands alone.
-/

namespace PgClient.Identifier

def escape : List Char → List Char
  | [] => []
  | char :: rest => if char = '"' then '"' :: '"' :: escape rest else char :: escape rest

def quote (name : String) : String :=
  String.ofList ('"' :: escape name.toList ++ ['"'])

/-- Reads on to the closing quote, and gives what follows it. -/
def readOpen : List Char → Option (List Char × List Char)
  | [] => none
  | '"' :: '"' :: rest => (readOpen rest).map fun read => ('"' :: read.1, read.2)
  | '"' :: rest => some ([], rest)
  | char :: rest => (readOpen rest).map fun read => (char :: read.1, read.2)

def read : List Char → Option (List Char × List Char)
  | '"' :: rest => readOpen rest
  | _ => none

/-- A quoted name is read back, whatever follows it but another quote. -/
theorem readOpen_escape (name rest : List Char) (apart : rest.head? ≠ some '"') :
    readOpen (escape name ++ '"' :: rest) = some (name, rest) := by
  induction name with
  | nil =>
      cases rest with
      | nil => rfl
      | cons char rest =>
          have other : char ≠ '"' := by simpa using apart
          simp only [escape, List.nil_append]
          rw [readOpen]
          intro after same
          injection same with impossible
          exact other impossible
  | cons char name ih =>
      by_cases same : char = '"'
      · subst same
        simp [escape, readOpen, ih]
      · simp only [escape, if_neg same, List.cons_append]
        rw [readOpen, ih]
        · rfl
        · intro _ impossible
          exact absurd impossible same
        · intro impossible
          exact absurd impossible same

end PgClient.Identifier
