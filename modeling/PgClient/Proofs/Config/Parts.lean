/-
The parts of a url, and the text that they make up.

The text is cut at the first place of each mark, from the outside to the inside: the query, the
user, the path, the port. So the parts make up the text again, and they are found again where
no part holds the mark that would end it.
-/

import PgClient.Config.Url

namespace PgClient.Config

/-! ### One cut -/

def joined (mark : Char) (before : List Char) (after : Option (List Char)) : List Char :=
  match after with
  | none => before
  | some after => before ++ mark :: after

theorem mem_joined {char mark : Char} {before : List Char} {after : Option (List Char)} :
    char ∈ joined mark before after ↔
      char ∈ before ∨ ∃ rest ∈ after, char = mark ∨ char ∈ rest := by
  cases after with
  | none => simp [joined]
  | some rest => simp [joined]

theorem cutOff_eq_iff {mark : Char} {text before : List Char} {after : Option (List Char)} :
    cutOff mark text = (before, after) ↔ mark ∉ before ∧ text = joined mark before after := by
  constructor
  · intro cut
    unfold cutOff at cut
    split at cut
    · rename_i found
      cases cut
      obtain ⟨whole, absent⟩ := Split.once_eq_some found
      exact ⟨absent, whole⟩
    · rename_i missing
      cases cut
      exact ⟨Split.absent_of_once missing, rfl⟩
  · rintro ⟨absent, rfl⟩
    cases after with
    | none => rw [joined, cutOff, Split.once_eq_none absent]
    | some rest => rw [joined, cutOff, Split.once_append absent]

theorem not_mem_joined {char mark : Char} {before : List Char} {after : Option (List Char)}
    (other : char ≠ mark) (notBefore : char ∉ before) (notAfter : ∀ rest ∈ after, char ∉ rest) :
    char ∉ joined mark before after := by
  rw [mem_joined]
  rintro (member | ⟨rest, isAfter, same | member⟩)
  · exact notBefore member
  · exact other same
  · exact notAfter rest isAfter member

/-! ### All cuts -/

namespace Parts

def server (parts : Parts) : List Char :=
  joined '/' (joined ':' parts.host parts.port) parts.path

def front (parts : Parts) : List Char :=
  match parts.userinfo with
  | none => parts.server
  | some userinfo => userinfo ++ '@' :: parts.server

def text (parts : Parts) : List Char :=
  joined '?' parts.front parts.query

/-- No part holds the mark that would end it. -/
structure Separate (parts : Parts) : Prop where
  host : ':' ∉ parts.host
  hostAndPort : '/' ∉ joined ':' parts.host parts.port
  userinfo : ∀ userinfo ∈ parts.userinfo, '@' ∉ userinfo
  anonymous : parts.userinfo = none → '@' ∉ parts.server
  front : '?' ∉ parts.front

/-- Parts of which none holds the mark that would end it are found again. -/
theorem ofText_text {parts : Parts} (separate : parts.Separate) : ofText parts.text = parts := by
  have atQuery : cutOff '?' parts.text = (parts.front, parts.query) :=
    cutOff_eq_iff.mpr ⟨separate.front, rfl⟩
  have atPath : cutOff '/' parts.server = (joined ':' parts.host parts.port, parts.path) :=
    cutOff_eq_iff.mpr ⟨separate.hostAndPort, rfl⟩
  have atPort : cutOff ':' (joined ':' parts.host parts.port) = (parts.host, parts.port) :=
    cutOff_eq_iff.mpr ⟨separate.host, rfl⟩
  unfold ofText
  rw [atQuery]
  cases info : parts.userinfo with
  | none =>
      have isFront : parts.front = parts.server := by rw [front, info]
      dsimp only
      rw [isFront, Split.once_eq_none (separate.anonymous info)]
      dsimp only
      rw [atPath]
      dsimp only
      rw [atPort, ← info]
  | some userinfo =>
      have isFront : parts.front = userinfo ++ '@' :: parts.server := by rw [front, info]
      dsimp only
      rw [isFront, Split.once_append (separate.userinfo userinfo info)]
      dsimp only
      rw [atPath]
      dsimp only
      rw [atPort, ← info]

/-- The cuts behind the user. -/
theorem exists_server (text : List Char) :
    ∃ hostAndPort path host port, cutOff '/' text = (hostAndPort, path) ∧
      cutOff ':' hostAndPort = (host, port) ∧ ':' ∉ host ∧ '/' ∉ joined ':' host port ∧
        text = joined '/' (joined ':' host port) path := by
  cases atPath : cutOff '/' text with
  | mk hostAndPort path =>
  obtain ⟨noPath, whole⟩ := cutOff_eq_iff.mp atPath
  cases atPort : cutOff ':' hostAndPort with
  | mk host port =>
  obtain ⟨noPort, both⟩ := cutOff_eq_iff.mp atPort
  refine ⟨hostAndPort, path, host, port, rfl, atPort, noPort, ?_, ?_⟩
  · rw [← both]
    exact noPath
  · rw [← both]
    exact whole

/-- The parts that are found make up the text, and none holds the mark that would end it. -/
theorem text_ofText (text : List Char) : (ofText text).text = text ∧ (ofText text).Separate := by
  cases atQuery : cutOff '?' text with
  | mk front query =>
  obtain ⟨noQuery, whole⟩ := cutOff_eq_iff.mp atQuery
  cases atUser : Split.once '@' front with
  | none =>
      have noUser := Split.absent_of_once atUser
      obtain ⟨_, path, host, port, atPath, atPort, noPort, noPath, server⟩ := exists_server front
      have found : ofText text = ⟨none, host, port, path, query⟩ := by
        simp only [ofText, atQuery, atUser, atPath, atPort]
      rw [found]
      subst whole server
      exact ⟨rfl, noPort, noPath, nofun, fun _ => noUser, noQuery⟩
  | some pair =>
      obtain ⟨userinfo, rest⟩ := pair
      obtain ⟨frontWhole, noUser⟩ := Split.once_eq_some atUser
      obtain ⟨_, path, host, port, atPath, atPort, noPort, noPath, server⟩ := exists_server rest
      have found : ofText text = ⟨some userinfo, host, port, path, query⟩ := by
        simp only [ofText, atQuery, atUser, atPath, atPort]
      rw [found]
      subst whole frontWhole server
      refine ⟨rfl, noPort, noPath, ?_, nofun, noQuery⟩
      intro other same
      cases same
      exact noUser

theorem Separate.server {parts : Parts} (separate : parts.Separate) :
    '?' ∉ parts.server := by
  have inFront : '?' ∉ parts.front := separate.front
  unfold Parts.front at inFront
  split at inFront
  · exact inFront
  · intro member
    exact inFront (List.mem_append_right _ (List.mem_cons_of_mem _ member))

end Parts

/-! ### Texts without marks -/

def Free (marks : List Char) (text : String) : Prop :=
  ∀ mark ∈ marks, mark ∉ text.toList

instance (marks : List Char) (text : String) : Decidable (Free marks text) :=
  List.decidableBAll (fun mark => mark ∉ text.toList) marks

theorem free_ofList {marks text : List Char} (free : ∀ mark ∈ marks, mark ∉ text) :
    Free marks (String.ofList text) := by
  intro mark isMark
  rw [String.toList_ofList]
  exact free mark isMark

end PgClient.Config
