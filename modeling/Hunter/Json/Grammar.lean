import Hunter.Json.RoundTrip

/-!
The grammar of JSON texts with their parse trees, and the descent of a parser over a
text: the containers that are open after a prefix, whatever follows it. The descent over
the text of a value opens as many containers at once as its tree is deep.
-/

namespace Json

/-- A tree keeps the tokens of its scalars and the keys of its members as they are written. -/
inductive ParseTree where
  | scalar (token : List Char)
  | array (items : List ParseTree)
  | object (members : List (List Char × ParseTree))

mutual
/-- The nesting depth of arrays and objects. -/
def ParseTree.depth : ParseTree → Nat
  | .scalar _ => 0
  | .array items => depthItems items + 1
  | .object members => depthMembers members + 1
def ParseTree.depthItems : List ParseTree → Nat
  | [] => 0
  | item :: items => max item.depth (depthItems items)
def ParseTree.depthMembers : List (List Char × ParseTree) → Nat
  | [] => 0
  | (_, item) :: members => max item.depth (depthMembers members)
end

def Spaces (text : List Char) : Prop := ∀ c ∈ text, space c = true

/-- What may stand between the quotation marks of a string; an escape may name any code unit. -/
inductive StringBody : List Char → Prop where
  | nil : StringBody []
  | plain {c : Char} {body : List Char} : c ≠ quotationMark → c ≠ '\\' → 0x20 ≤ c.toNat →
      StringBody body → StringBody (c :: body)
  | short {e : Char} {body : List Char} : (longEscape e).isSome → StringBody body →
      StringBody ('\\' :: e :: body)
  | unicode {a b c d : Char} {body : List Char} : (hexCode a b c d).isSome → StringBody body →
      StringBody ('\\' :: 'u' :: a :: b :: c :: d :: body)

def quoted (body : List Char) : List Char := quotationMark :: (body ++ [quotationMark])

inductive Scalar : List Char → Prop where
  | word {token : List Char} :
      token ∈ [['n', 'u', 'l', 'l'], ['t', 'r', 'u', 'e'], ['f', 'a', 'l', 's', 'e']] → Scalar token
  | int {token : List Char} : (intToken token).isSome → Scalar token
  | float {token : List Char} : floatText token = true → Scalar token
  | string {body : List Char} : StringBody body → Scalar (quoted body)

inductive Symbol where
  | element (tree : ParseTree)
  | items (trees : List ParseTree)
  | members (trees : List (List Char × ParseTree))

/-- The text of a value with white space around it, of items and of members. -/
inductive Derives : Symbol → List Char → Prop where
  | scalar {before token after : List Char} : Spaces before → Scalar token → Spaces after →
      Derives (.element (.scalar token)) (before ++ (token ++ after))
  | emptyArray {before inner after : List Char} : Spaces before → Spaces inner → Spaces after →
      Derives (.element (.array [])) (before ++ (['['] ++ (inner ++ ([']'] ++ after))))
  | array {before body after : List Char} {items : List ParseTree} : Spaces before →
      Derives (.items items) body → Spaces after →
      Derives (.element (.array items)) (before ++ (['['] ++ (body ++ ([']'] ++ after))))
  | emptyObject {before inner after : List Char} : Spaces before → Spaces inner → Spaces after →
      Derives (.element (.object [])) (before ++ (['{'] ++ (inner ++ (['}'] ++ after))))
  | object {before body after : List Char} {members : List (List Char × ParseTree)} : Spaces before →
      Derives (.members members) body → Spaces after →
      Derives (.element (.object members)) (before ++ (['{'] ++ (body ++ (['}'] ++ after))))
  | lastItem {tree : ParseTree} {text : List Char} : Derives (.element tree) text →
      Derives (.items [tree]) text
  | item {tree : ParseTree} {trees : List ParseTree} {text rest : List Char} :
      Derives (.element tree) text → Derives (.items trees) rest →
      Derives (.items (tree :: trees)) (text ++ ([','] ++ rest))
  | lastMember {tree : ParseTree} {before key after text : List Char} : Spaces before →
      StringBody key → Spaces after → Derives (.element tree) text →
      Derives (.members [(key, tree)]) (before ++ (quoted key ++ (after ++ ([':'] ++ text))))
  | member {tree : ParseTree} {trees : List (List Char × ParseTree)}
      {before key after text rest : List Char} : Spaces before → StringBody key → Spaces after →
      Derives (.element tree) text → Derives (.members trees) rest →
      Derives (.members ((key, tree) :: trees))
        (before ++ (quoted key ++ (after ++ ([':'] ++ (text ++ ([','] ++ rest))))))

inductive Container where
  | array | object
  deriving DecidableEq

/-- What a parser waits for. -/
inductive Awaits where
  | value | firstItem | firstKey | key | colon | next
  deriving DecidableEq

structure Descent where
  opened : List Container
  awaits : Awaits

/-- A parser reads a token, or a space between two tokens. -/
inductive Step : Descent → List Char → Descent → Prop where
  | space {c : Char} {opened : List Container} {awaits : Awaits} : space c = true →
      Step ⟨opened, awaits⟩ [c] ⟨opened, awaits⟩
  | scalar {token : List Char} {opened : List Container} {awaits : Awaits} :
      awaits ∈ [.value, .firstItem] → Scalar token → Step ⟨opened, awaits⟩ token ⟨opened, .next⟩
  | openArray {opened : List Container} {awaits : Awaits} : awaits ∈ [.value, .firstItem] →
      Step ⟨opened, awaits⟩ ['['] ⟨.array :: opened, .firstItem⟩
  | openObject {opened : List Container} {awaits : Awaits} : awaits ∈ [.value, .firstItem] →
      Step ⟨opened, awaits⟩ ['{'] ⟨.object :: opened, .firstKey⟩
  | nextItem {opened : List Container} : Step ⟨.array :: opened, .next⟩ [','] ⟨.array :: opened, .value⟩
  | closeArray {opened : List Container} {awaits : Awaits} : awaits ∈ [.firstItem, .next] →
      Step ⟨.array :: opened, awaits⟩ [']'] ⟨opened, .next⟩
  | key {body : List Char} {opened : List Container} {awaits : Awaits} :
      awaits ∈ [.firstKey, .key] → StringBody body →
      Step ⟨.object :: opened, awaits⟩ (quoted body) ⟨.object :: opened, .colon⟩
  | colon {opened : List Container} : Step ⟨.object :: opened, .colon⟩ [':'] ⟨.object :: opened, .value⟩
  | nextMember {opened : List Container} : Step ⟨.object :: opened, .next⟩ [','] ⟨.object :: opened, .key⟩
  | closeObject {opened : List Container} {awaits : Awaits} : awaits ∈ [.firstKey, .next] →
      Step ⟨.object :: opened, awaits⟩ ['}'] ⟨opened, .next⟩

/-- A parser reads a text; at most `peak` containers are open at once. -/
inductive Descends : Descent → List Char → Descent → Nat → Prop where
  | nil (s : Descent) : Descends s [] s s.opened.length
  | cons {s t u : Descent} {token text : List Char} {peak : Nat} : Step s token t →
      Descends t text u peak → Descends s (token ++ text) u (max s.opened.length peak)

variable {s t u : Descent} {text rest : List Char} {peak other : Nat}

theorem Descends.start (descends : Descends s text t peak) : s.opened.length ≤ peak := by
  cases descends with
  | nil => exact Nat.le_refl _
  | cons _ _ => exact Nat.le_max_left _ _

theorem Descends.trans (first : Descends s text t peak) (second : Descends t rest u other) :
    Descends s (text ++ rest) u (max peak other) := by
  induction first with
  | nil s =>
      have below := second.start
      rw [List.nil_append, Nat.max_eq_right below]
      exact second
  | cons step _ ih =>
      rw [List.append_assoc, Nat.max_assoc]
      exact .cons step (ih second)

theorem Descends.one (step : Step s text t) :
    Descends s text t (max s.opened.length t.opened.length) := by
  have single : Descends s (text ++ []) t _ := .cons step (.nil t)
  rwa [List.append_nil] at single

theorem Descends.spaces (opened : List Container) (awaits : Awaits) (spaces : Spaces text) :
    Descends ⟨opened, awaits⟩ text ⟨opened, awaits⟩ opened.length := by
  induction text with
  | nil => exact .nil _
  | cons c text ih =>
      obtain ⟨first, others⟩ := List.forall_mem_cons.mp spaces
      have both := (Descends.one (.space first)).trans (ih others)
      simpa using both

theorem Descends.peak_eq (descends : Descends s text t peak) (same : peak = other) :
    Descends s text t other := same ▸ descends

/-- How a parser reads what a symbol derives, below the containers that are open already. -/
def Reads : Symbol → List Char → Prop
  | .element tree, text => ∀ opened awaits, awaits ∈ [Awaits.value, .firstItem] →
      Descends ⟨opened, awaits⟩ text ⟨opened, .next⟩ (opened.length + tree.depth)
  | .items trees, text => ∀ opened awaits, awaits ∈ [Awaits.value, .firstItem] →
      Descends ⟨.array :: opened, awaits⟩ text ⟨.array :: opened, .next⟩
        (opened.length + (ParseTree.depthItems trees + 1))
  | .members trees, text => ∀ opened awaits, awaits ∈ [Awaits.firstKey, .key] →
      Descends ⟨.object :: opened, awaits⟩ text ⟨.object :: opened, .next⟩
        (opened.length + (ParseTree.depthMembers trees + 1))

/-- The key of a member with its colon. -/
theorem Descends.key {before key after : List Char} (spacesBefore : Spaces before) (body : StringBody key)
    (spacesAfter : Spaces after) {opened : List Container} {awaits : Awaits}
    (waits : awaits ∈ [Awaits.firstKey, .key]) (value : Descends ⟨.object :: opened, .value⟩ text t peak) :
    Descends ⟨.object :: opened, awaits⟩ (before ++ (quoted key ++ (after ++ ([':'] ++ text)))) t peak := by
  have colon := (Descends.one .colon).trans value
  have all := (Descends.spaces (.object :: opened) awaits spacesBefore).trans
    ((Descends.one (.key waits body)).trans ((Descends.spaces _ _ spacesAfter).trans colon))
  have below := value.start
  exact all.peak_eq (by simp only [List.length_cons] at *; omega)

theorem Descends.closeArray (opened : List Container) {awaits : Awaits} (spaces : Spaces text)
    (waits : awaits ∈ [Awaits.firstItem, .next]) :
    Descends ⟨.array :: opened, awaits⟩ ([']'] ++ text) ⟨opened, .next⟩ (opened.length + 1) :=
  ((Descends.one (.closeArray waits)).trans (Descends.spaces opened _ spaces)).peak_eq (by simp)

theorem Descends.closeObject (opened : List Container) {awaits : Awaits} (spaces : Spaces text)
    (waits : awaits ∈ [Awaits.firstKey, .next]) :
    Descends ⟨.object :: opened, awaits⟩ (['}'] ++ text) ⟨opened, .next⟩ (opened.length + 1) :=
  ((Descends.one (.closeObject waits)).trans (Descends.spaces opened _ spaces)).peak_eq (by simp)

/-- The descent over what is derived is as deep as the tree. -/
theorem Derives.reads {symbol : Symbol} (derives : Derives symbol text) : Reads symbol text := by
  induction derives with
  | scalar before token after =>
      intro opened awaits waits
      have all := (Descends.spaces opened awaits before).trans
        ((Descends.one (.scalar waits token)).trans (Descends.spaces _ _ after))
      exact all.peak_eq (by simp [ParseTree.depth])
  | emptyArray before inner after =>
      intro opened awaits waits
      have closed := Descends.closeArray opened after (List.mem_cons_self : Awaits.firstItem ∈ _)
      have all := (Descends.spaces opened awaits before).trans ((Descends.one (.openArray waits)).trans
        ((Descends.spaces _ _ inner).trans closed))
      exact all.peak_eq (by simp [ParseTree.depth, ParseTree.depthItems])
  | @array before body after items spacesBefore _ spacesAfter ih =>
      intro opened awaits waits
      have closed := Descends.closeArray opened spacesAfter (by simp : Awaits.next ∈ _)
      have all := (Descends.spaces opened awaits spacesBefore).trans ((Descends.one (.openArray waits)).trans
        ((ih opened .firstItem (by simp)).trans closed))
      exact all.peak_eq (by simp only [ParseTree.depth, List.length_cons]; omega)
  | emptyObject before inner after =>
      intro opened awaits waits
      have closed := Descends.closeObject opened after (List.mem_cons_self : Awaits.firstKey ∈ _)
      have all := (Descends.spaces opened awaits before).trans ((Descends.one (.openObject waits)).trans
        ((Descends.spaces _ _ inner).trans closed))
      exact all.peak_eq (by simp [ParseTree.depth, ParseTree.depthMembers])
  | @object before body after members spacesBefore _ spacesAfter ih =>
      intro opened awaits waits
      have closed := Descends.closeObject opened spacesAfter (by simp : Awaits.next ∈ _)
      have all := (Descends.spaces opened awaits spacesBefore).trans ((Descends.one (.openObject waits)).trans
        ((ih opened .firstKey (by simp)).trans closed))
      exact all.peak_eq (by simp only [ParseTree.depth, List.length_cons]; omega)
  | lastItem _ ih =>
      intro opened awaits waits
      refine (ih (.array :: opened) awaits waits).peak_eq ?_
      simp only [ParseTree.depthItems, List.length_cons]
      omega
  | item _ _ first others =>
      intro opened awaits waits
      have all := (first (.array :: opened) awaits waits).trans
        ((Descends.one .nextItem).trans (others opened .value (by simp)))
      exact all.peak_eq (by simp only [ParseTree.depthItems, List.length_cons]; omega)
  | lastMember before body after _ ih =>
      intro opened awaits waits
      have all := Descends.key before body after waits (ih (.object :: opened) .value (by simp))
      exact all.peak_eq (by simp only [ParseTree.depthMembers, List.length_cons]; omega)
  | member before body after _ _ first others =>
      intro opened awaits waits
      have value := (first (.object :: opened) .value (by simp)).trans
        ((Descends.one .nextMember).trans (others opened .key (by simp)))
      have all := Descends.key before body after waits value
      exact all.peak_eq (by simp only [ParseTree.depthMembers, List.length_cons]; omega)

/-- The start of a text. -/
def Descent.start : Descent := ⟨[], .value⟩

theorem Derives.descends {tree : ParseTree} (derives : Derives (.element tree) text) :
    Descends .start text ⟨[], .next⟩ tree.depth :=
  (derives.reads [] .value (by simp)).peak_eq (Nat.zero_add _)

def bracket (c : Char) : Prop := c ∈ [quotationMark, '[', '{', ']', '}']

theorem numberChar_plain {c : Char} (number : numberChar c = true) : ¬bracket c := by
  intro member
  simp only [bracket, List.mem_cons, List.not_mem_nil, or_false] at member
  rcases member with rfl | rfl | rfl | rfl | rfl <;> exact absurd number (by decide)

theorem space_plain {c : Char} (blank : space c = true) : ¬bracket c := by
  intro member
  simp only [bracket, List.mem_cons, List.not_mem_nil, or_false] at member
  rcases member with rfl | rfl | rfl | rfl | rfl <;> exact absurd blank (by decide)

theorem intToken_all {token : List Char} (read : (intToken token).isSome) :
    ∀ c ∈ token, numberChar c = true := by
  have digits (rest : List Char) (some_ : (natToken rest).isSome) : ∀ c ∈ rest, numberChar c = true := by
    obtain ⟨n, found⟩ := Option.isSome_iff_exists.mp some_
    exact fun c there => numberChar_of_isDigit (natToken_some found c there)
  unfold intToken at read
  split at read
  · rename_i rest
    rw [Option.isSome_map] at read
    exact List.forall_mem_cons.mpr ⟨rfl, digits rest read⟩
  · rw [Option.isSome_map] at read
    exact digits token read

/-- A scalar is a quoted string or has neither brackets nor quotation marks. -/
theorem Scalar.cases_plain {token : List Char} (scalar : Scalar token) :
    (∃ body, StringBody body ∧ token = quoted body) ∨ ∀ c ∈ token, ¬bracket c := by
  cases scalar with
  | word member =>
      right
      simp only [List.mem_cons, List.not_mem_nil, or_false] at member
      rcases member with rfl | rfl | rfl <;> simp [bracket, quotationMark]
  | int read => exact Or.inr fun c there => numberChar_plain (intToken_all read c there)
  | float read =>
      exact Or.inr fun c there => numberChar_plain (List.all_eq_true.mp (floatText_all read) c there)
  | string body => exact Or.inl ⟨_, body, rfl⟩

end Json
