/-
Cutting a text at a mark: at its first place, at every place, or off the front.
-/

namespace PgClient.Split

/-- What stands before and after the first place of a character. -/
def once (mark : Char) (text : List Char) : Option (List Char × List Char) :=
  match text.dropWhile (· != mark) with
  | [] => none
  | _ :: after => some (text.takeWhile (· != mark), after)

theorem once_append {mark : Char} {before : List Char} (absent : mark ∉ before)
    (after : List Char) : once mark (before ++ mark :: after) = some (before, after) := by
  have all : ∀ char ∈ before, (char != mark) = true := by
    intro char member
    simp only [bne_iff_ne, ne_eq]
    intro same
    exact absent (same ▸ member)
  simp [once, List.takeWhile_append_of_pos all, List.dropWhile_append_of_pos all]

theorem once_eq_none {mark : Char} {text : List Char} (absent : mark ∉ text) :
    once mark text = none := by
  have dropped : text.dropWhile (· != mark) = [] := by
    induction text with
    | nil => rfl
    | cons char rest ih =>
        rw [List.mem_cons, not_or] at absent
        have other : char ≠ mark := fun same => absent.1 same.symm
        simp [other, ih absent.2]
  simp [once, dropped]

theorem once_eq_some {mark : Char} {text before after : List Char}
    (found : once mark text = some (before, after)) :
    text = before ++ mark :: after ∧ mark ∉ before := by
  have whole := List.takeWhile_append_dropWhile (p := (· != mark)) (l := text)
  have clean := List.all_takeWhile (p := (· != mark)) (l := text)
  unfold once at found
  split at found
  · contradiction
  · rename_i head tail same
    injection found with pair
    injection pair with sameBefore sameAfter
    have headMark : head = mark := by
      have stop := List.head?_dropWhile_not (p := (· != mark)) text
      rw [same] at stop
      simpa using stop
    subst sameBefore sameAfter headMark
    refine ⟨by rw [← same]; exact whole.symm, ?_⟩
    intro member
    have other := List.all_eq_true.mp clean head member
    simp at other

theorem absent_of_once {mark : Char} {text : List Char} (missing : once mark text = none) :
    mark ∉ text := by
  intro member
  obtain ⟨before, after, split, absent⟩ := List.eq_append_cons_of_mem member
  rw [split, once_append absent] at missing
  cases missing

/-- The parts between the places of a character; a text without it is one part. -/
def every (mark : Char) : List Char → List (List Char)
  | [] => [[]]
  | char :: rest =>
      if char = mark then [] :: every mark rest
      else
        match every mark rest with
        | [] => [[char]]
        | part :: parts => (char :: part) :: parts

theorem every_ne_nil (mark : Char) (text : List Char) : every mark text ≠ [] := by
  cases text with
  | nil => simp [every]
  | cons char rest =>
      unfold every
      split
      · simp
      · split <;> simp

theorem every_of_absent {mark : Char} {text : List Char} (absent : mark ∉ text) :
    every mark text = [text] := by
  induction text with
  | nil => rfl
  | cons char rest ih =>
      rw [List.mem_cons, not_or] at absent
      rw [every, if_neg (fun same => absent.1 same.symm), ih absent.2]

theorem every_append {mark : Char} {before : List Char} (absent : mark ∉ before)
    (after : List Char) : every mark (before ++ mark :: after) = before :: every mark after := by
  induction before with
  | nil => simp [every]
  | cons char rest ih =>
      rw [List.mem_cons, not_or] at absent
      rw [List.cons_append, every, if_neg (fun same => absent.1 same.symm), ih absent.2]

theorem every_eq_splitOn (mark : Char) (text : List Char) :
    every mark text = text.splitOn mark := by
  induction text with
  | nil => rfl
  | cons char rest ih =>
      rw [List.splitOn_cons_eq_if_modifyHead, every, ih]
      by_cases same : char = mark
      · rw [if_pos same, if_pos (beq_iff_eq.mpr same)]
      · rw [if_neg same, if_neg (fun equal => same (beq_iff_eq.mp equal))]
        cases parts : rest.splitOn mark with
        | nil => exact absurd parts (List.splitOn_ne_nil mark rest)
        | cons part others => rfl

theorem not_mem_of_mem_every {mark : Char} {text part : List Char}
    (member : part ∈ every mark text) : mark ∉ part := by
  induction text generalizing part with
  | nil =>
      rw [every, List.mem_singleton] at member
      rw [member]
      exact List.not_mem_nil
  | cons char rest ih =>
      rw [every] at member
      by_cases same : char = mark
      · rw [if_pos same, List.mem_cons] at member
        rcases member with first | later
        · rw [first]
          exact List.not_mem_nil
        · exact ih later
      · rw [if_neg same] at member
        cases parts : every mark rest with
        | nil => exact absurd parts (every_ne_nil mark rest)
        | cons front others =>
            rw [parts] at ih member
            rcases List.mem_cons.mp member with first | later
            · rw [first, List.mem_cons, not_or]
              exact ⟨fun marked => same marked.symm, ih List.mem_cons_self⟩
            · exact ih (List.mem_cons_of_mem _ later)

/-- What follows `front` in a text that begins with it. -/
def after? : List Char → List Char → Option (List Char)
  | [], text => some text
  | _ :: _, [] => none
  | wanted :: front, char :: text => if wanted = char then after? front text else none

theorem after?_append (front text : List Char) : after? front (front ++ text) = some text := by
  induction front with
  | nil => rfl
  | cons wanted front ih => simp [after?, ih]

theorem after?_eq_some {front text rest : List Char} (found : after? front text = some rest) :
    text = front ++ rest := by
  induction front generalizing text with
  | nil =>
      simp only [after?, Option.some.injEq] at found
      simp [found]
  | cons wanted front ih =>
      cases text with
      | nil => simp [after?] at found
      | cons char text =>
          simp only [after?] at found
          split at found
          · rename_i same
            rw [same, List.cons_append, ih found]
          · contradiction

/-- What stands before and after the first place of a run of characters. -/
def onceRun (run : List Char) : List Char → Option (List Char × List Char)
  | [] => if run.isEmpty then some ([], []) else none
  | char :: rest =>
      match after? run (char :: rest) with
      | some after => some ([], after)
      | none => (onceRun run rest).map fun parts => (char :: parts.1, parts.2)

theorem onceRun_eq_some {run text before after : List Char}
    (found : onceRun run text = some (before, after)) : text = before ++ (run ++ after) := by
  induction text generalizing before with
  | nil =>
      rw [onceRun] at found
      split at found
      · rename_i noRun
        cases found
        rw [List.isEmpty_iff.mp noRun]
        rfl
      · contradiction
  | cons char rest ih =>
      rw [onceRun] at found
      split at found
      · rename_i begins
        cases found
        rw [List.nil_append]
        exact after?_eq_some begins
      · obtain ⟨parts, further, same⟩ := Option.map_eq_some_iff.mp found
        cases same
        rw [List.cons_append, ← ih further]

end PgClient.Split
