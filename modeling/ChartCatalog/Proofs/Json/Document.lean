import ChartCatalog.Json.Layout
import ChartCatalog.Proofs.Json.Token

/-!
# Reading a document back

Going from a value to its text and back takes two steps that are each undone. The
machine rebuilds every value from its tokens (`foldlM_tokens`), whatever containers
are open around it. The text of the tokens is cut into the same tokens
(`Writable.retokenizes`) if all numbers are well formed and all strings have a
text; `Writable` values are those. Such a value is what its compact text denotes
(`parse?_compact`).
-/

namespace ChartCatalog.Json

open Text

/-! ## The machine on the tokens of a value -/

/-- A value never starts with a closing bracket, so the first item of an array is
a value like any other. -/
theorem foldlM_firstItem (value : Json) (rest : List Token) (stack : List Frame) :
    (value.tokens ++ rest).foldlM step ⟨.firstItem, stack⟩ =
      (value.tokens ++ rest).foldlM step ⟨.value, .items [] :: stack⟩ := by
  cases value <;> rfl

mutual

/-- After the tokens of a value the machine holds the value, and the containers
that were open are still open. -/
theorem foldlM_tokens (value : Json) (rest : List Token) (stack : List Frame) :
    (value.tokens ++ rest).foldlM step ⟨.value, stack⟩ =
      rest.foldlM step ⟨.after value, stack⟩ := by
  match value with
  | .null => rfl
  | .bool _ => rfl
  | .number _ => rfl
  | .string _ => rfl
  | .array [] => rfl
  | .array (item :: items) =>
    show (item.tokens ++ itemTokens false items ++ rest).foldlM step ⟨.firstItem, stack⟩ = _
    rw [List.append_assoc, foldlM_firstItem, foldlM_tokens item, foldlM_itemTokens items]
    rfl
  | .object [] => rfl
  | .object ((name, value) :: members) =>
    show (value.tokens ++ memberTokens false members ++ rest).foldlM step
      ⟨.value, .members [] name :: stack⟩ = _
    rw [List.append_assoc, foldlM_tokens value, foldlM_memberTokens members]
    rfl

/-- The items that follow an item are added to those before it. -/
theorem foldlM_itemTokens (items : List Json) (item : Json) (before : List Json)
    (rest : List Token) (stack : List Frame) :
    (itemTokens false items ++ rest).foldlM step ⟨.after item, .items before :: stack⟩ =
      rest.foldlM step ⟨.after (.array ((item :: before).reverse ++ items)), stack⟩ := by
  match items with
  | [] => rw [List.append_nil]; rfl
  | next :: items =>
    show (next.tokens ++ itemTokens false items ++ rest).foldlM step
      ⟨.value, .items (item :: before) :: stack⟩ = _
    rw [List.append_assoc, foldlM_tokens next, foldlM_itemTokens items,
      List.reverse_cons (a := next), List.append_assoc]
    rfl

/-- The members that follow a member are added to those before it. -/
theorem foldlM_memberTokens (members : List (Option String × Json)) (value : Json)
    (before : List (Option String × Json)) (name : Option String) (rest : List Token)
    (stack : List Frame) :
    (memberTokens false members ++ rest).foldlM step
        ⟨.after value, .members before name :: stack⟩ =
      rest.foldlM step
        ⟨.after (.object (((name, value) :: before).reverse ++ members)), stack⟩ := by
  match members with
  | [] => rw [List.append_nil]; rfl
  | (next, value') :: members =>
    show (value'.tokens ++ memberTokens false members ++ rest).foldlM step
      ⟨.value, .members ((name, value) :: before) next :: stack⟩ = _
    rw [List.append_assoc, foldlM_tokens value', foldlM_memberTokens members,
      List.reverse_cons (a := (next, value')), List.append_assoc]
    rfl

end

/-- Every value is rebuilt from its tokens. -/
theorem ofTokens?_tokens (value : Json) : ofTokens? value.tokens = some value := by
  have hrun := foldlM_tokens value [] []
  rw [List.append_nil] at hrun
  unfold ofTokens? Machine.start
  rw [hrun]
  rfl

/-! ## The tokens of a text of tokens -/

/-- The tokens are read back from their text, and what follows is left alone. -/
def Retokenizes (tokens : List Token) : Prop :=
  ∀ s, EndsNumber s → tokens? (tokens.flatMap Token.text ++ s) = (tokens? s).map (tokens ++ ·)

theorem Retokenizes.cons {tokens : List Token} (htokens : Retokenizes tokens) (token : Token)
    (htoken : ∀ s, EndsNumber s → token.ReadableBefore (tokens.flatMap Token.text ++ s)) :
    Retokenizes (token :: tokens) := by
  intro s hs
  rw [List.flatMap_cons, List.append_assoc, Token.tokens?_text_append (htoken s hs), htokens s hs,
    Option.map_map]
  rfl

/-- One token, wherever a number may end. -/
theorem retokenizes_singleton {token : Token}
    (h : ∀ s, EndsNumber s → token.ReadableBefore s) : Retokenizes [token] := by
  refine Retokenizes.cons (fun s _ => ?_) token h
  exact (Option.map_id' (x := tokens? s)).symm

theorem Retokenizes.append {tokens more : List Token} (htokens : Retokenizes tokens)
    (hmore : Retokenizes more)
    (hends : ∀ s, EndsNumber (more.flatMap Token.text ++ s)) : Retokenizes (tokens ++ more) := by
  intro s hs
  rw [List.flatMap_append, List.append_assoc, htokens _ (hends s), hmore s hs, Option.map_map]
  exact congrArg (Option.map · _) (funext fun rest => (List.append_assoc tokens more rest).symm)

/-! ## Values that can be written -/

/-- A value of which every number is well formed and every string, also every name
of a member, has a text. -/
inductive Writable : Json → Prop
  | null : Writable .null
  | bool (value : Bool) : Writable (.bool value)
  | number {literal : Literal} : literal.WellFormed → Writable (.number literal)
  | string (text : String) : Writable (.string (some text))
  | array {items : List Json} : (∀ item ∈ items, Writable item) → Writable (.array items)
  | object {members : List (Option String × Json)} :
    (∀ member ∈ members, member.1.isSome = true) → (∀ member ∈ members, Writable member.2) →
      Writable (.object members)

/-- A comma or the closing bracket follows an item. -/
theorem endsNumber_itemTokens (items : List Json) (s : List Char) :
    EndsNumber ((itemTokens false items).flatMap Token.text ++ s) := by
  intro c hc
  cases items with
  | nil => cases hc; decide
  | cons item items => cases hc; decide

/-- A comma or the closing brace follows a member. -/
theorem endsNumber_memberTokens (members : List (Option String × Json)) (s : List Char) :
    EndsNumber ((memberTokens false members).flatMap Token.text ++ s) := by
  intro c hc
  cases members with
  | nil => cases hc; decide
  | cons member members => cases hc; decide

theorem retokenizes_itemTokens {items : List Json}
    (h : ∀ item ∈ items, Retokenizes item.tokens) (first : Bool) :
    Retokenizes (itemTokens first items) := by
  induction items generalizing first with
  | nil => exact retokenizes_singleton fun _ _ => trivial
  | cons item items ih =>
    have hitem := h item List.mem_cons_self
    have hitems := ih (fun item hmem => h item (List.mem_cons_of_mem _ hmem)) false
    have hboth := hitem.append hitems (endsNumber_itemTokens items)
    cases first with
    | true => exact hboth
    | false => exact hboth.cons .comma fun _ _ => trivial

theorem retokenizes_memberTokens {members : List (Option String × Json)}
    (hname : ∀ member ∈ members, member.1.isSome = true)
    (hvalue : ∀ member ∈ members, Retokenizes member.2.tokens) (first : Bool) :
    Retokenizes (memberTokens first members) := by
  induction members generalizing first with
  | nil => exact retokenizes_singleton fun _ _ => trivial
  | cons member members ih =>
    have hmembers := ih (fun member hmem => hname member (List.mem_cons_of_mem _ hmem))
      (fun member hmem => hvalue member (List.mem_cons_of_mem _ hmem)) false
    have hfirst := (hvalue member List.mem_cons_self).append hmembers
      (endsNumber_memberTokens members)
    have hnamed := (hfirst.cons .colon fun _ _ => trivial).cons (.string member.1)
      fun _ _ => hname member List.mem_cons_self
    cases first with
    | true => exact hnamed
    | false => exact hnamed.cons .comma fun _ _ => trivial

/-- The text of a writable value is cut into the tokens of the value. -/
theorem Writable.retokenizes {value : Json} (h : Writable value) : Retokenizes value.tokens := by
  induction h with
  | null => exact retokenizes_singleton fun _ _ => trivial
  | bool value => exact retokenizes_singleton fun _ _ => trivial
  | number hliteral => exact retokenizes_singleton fun _ hs => ⟨hliteral, hs⟩
  | string text => exact retokenizes_singleton fun _ _ => rfl
  | array _ ih => exact (retokenizes_itemTokens ih true).cons .openBracket fun _ _ => trivial
  | object hname _ ih => exact (retokenizes_memberTokens hname ih true).cons .openBrace fun _ _ => trivial

/-- A writable value is what its compact text denotes. -/
theorem parse?_compact {value : Json} (h : Writable value) : parse? value.compact = some value := by
  have hread := h.retokenizes [] endsNumber_nil
  rw [List.append_nil] at hread
  unfold parse? compact compactChars
  rw [String.toList_ofList, hread, tokens?]
  show ofTokens? (value.tokens ++ []) = some value
  rw [List.append_nil, ofTokens?_tokens]

end ChartCatalog.Json
