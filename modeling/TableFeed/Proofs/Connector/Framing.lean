import Mathlib.Data.List.TakeWhile
import TableFeed.Connector
import TableFeed.Proofs.Json.Controls

/-!
# Items and the separator between them

Items are written one by one with the separator of lines between them.  When the separator has
a control character the payload can be cut into the items again (`Connector.splitOn_payload`):
no item holds a control, not even in its strings, so the first separator of what is left begins
where the first item ends.

An item may still hold other characters of the separator, and end with those that the separator
begins with.  Up to the first control of the separator the two are therefore counted and not
compared: a separator that began within the item would have its control too early.
-/

namespace TableFeed

namespace Text

/-! ## Cutting at a mark -/

/-- The characters before the leftmost occurrence of a mark, and those after it. -/
def cutAt? (mark : List Char) : List Char → Option (List Char × List Char)
  | [] => if mark = [] then some ([], []) else none
  | c :: rest =>
    if mark.isPrefixOf (c :: rest) then some ([], (c :: rest).drop mark.length)
    else (cutAt? mark rest).map fun (before, after) => (c :: before, after)

/-- The stretches between the occurrences of a mark: what stands before the leftmost, and those of
what stands after it.  Nothing is cut at an empty mark. -/
def splitOn (mark : List Char) (cs : List Char) : List (List Char) :=
  match cutAt? mark cs with
  | none => [cs]
  | some (before, after) =>
    if after.length < cs.length then before :: splitOn mark after else [cs]
termination_by cs.length

variable {p : Char → Bool} {mark before after : List Char}

theorem takeWhile_append_of_exists {front : List Char} (h : ∃ c ∈ front, p c = true)
    (back : List Char) :
    (front ++ back).takeWhile (fun c => !p c) = front.takeWhile fun c => !p c := by
  rw [List.takeWhile_append, if_neg]
  intro hlength
  obtain ⟨c, hc, hpc⟩ := h
  have hall := (List.takeWhile_prefix (fun c => !p c)).eq_of_length hlength
  have hnot := List.takeWhile_eq_self_iff.1 hall c hc
  rw [hpc] at hnot
  cases hnot

/-- A mark with a special character does not begin before the next mark where none of the
characters up to there is special. -/
theorem not_isPrefixOf_append (hmark : ∃ c ∈ mark, p c = true) (hne : before ≠ [])
    (hbefore : ∀ c ∈ before, p c = false) (after : List Char) :
    mark.isPrefixOf (before ++ (mark ++ after)) = false := by
  rw [Bool.eq_false_iff, ne_eq, List.isPrefixOf_iff_prefix]
  rintro ⟨rest, hrest⟩
  -- Count the characters before the first special one, in both ways.
  have hcount := congrArg (fun cs => (cs.takeWhile fun c => !p c).length) hrest
  have hplain : ∀ c ∈ before, (!p c) = true := fun c hc => by rw [hbefore c hc]; rfl
  simp only [takeWhile_append_of_exists hmark, List.takeWhile_append_of_pos hplain,
    List.length_append] at hcount
  have hpos := List.length_pos_iff.2 hne
  omega

theorem not_isPrefixOf_of_forall {cs : List Char} (hmark : ∃ c ∈ mark, p c = true)
    (hcs : ∀ c ∈ cs, p c = false) : mark.isPrefixOf cs = false := by
  rw [Bool.eq_false_iff, ne_eq, List.isPrefixOf_iff_prefix]
  intro hfront
  obtain ⟨c, hc, hpc⟩ := hmark
  exact absurd hpc (by rw [hcs c (hfront.subset hc)]; nofun)

theorem cutAt?_append (hmark : ∃ c ∈ mark, p c = true) (hbefore : ∀ c ∈ before, p c = false)
    (after : List Char) : cutAt? mark (before ++ (mark ++ after)) = some (before, after) := by
  induction before with
  | nil =>
    obtain ⟨c, hc, -⟩ := hmark
    obtain ⟨first, others, rfl⟩ := List.exists_cons_of_ne_nil (List.ne_nil_of_mem hc)
    have hprefix : (first :: others).isPrefixOf (first :: (others ++ after)) = true :=
      List.isPrefixOf_iff_prefix.2 (List.prefix_append (first :: others) after)
    rw [List.nil_append, List.cons_append, cutAt?, if_pos hprefix, ← List.cons_append,
      List.drop_left]
  | cons c before ih =>
    have hnot := not_isPrefixOf_append hmark (List.cons_ne_nil c before) hbefore after
    obtain ⟨-, hrest⟩ := List.forall_mem_cons.1 hbefore
    rw [List.cons_append] at hnot ⊢
    rw [cutAt?, if_neg (by rw [hnot]; nofun), ih hrest]
    rfl

theorem cutAt?_of_forall {cs : List Char} (hmark : ∃ c ∈ mark, p c = true)
    (hcs : ∀ c ∈ cs, p c = false) : cutAt? mark cs = none := by
  induction cs with
  | nil =>
    obtain ⟨c, hc, -⟩ := hmark
    exact if_neg (List.ne_nil_of_mem hc)
  | cons c cs ih =>
    obtain ⟨-, hrest⟩ := List.forall_mem_cons.1 hcs
    rw [cutAt?, if_neg (by rw [not_isPrefixOf_of_forall hmark hcs]; nofun), ih hrest]
    rfl

theorem splitOn_of_forall {cs : List Char} (hmark : ∃ c ∈ mark, p c = true)
    (hcs : ∀ c ∈ cs, p c = false) : splitOn mark cs = [cs] := by
  rw [splitOn, cutAt?_of_forall hmark hcs]

theorem splitOn_append (hmark : ∃ c ∈ mark, p c = true) (hbefore : ∀ c ∈ before, p c = false)
    (after : List Char) :
    splitOn mark (before ++ (mark ++ after)) = before :: splitOn mark after := by
  have hpos : 0 < mark.length := by
    obtain ⟨c, hc, -⟩ := hmark
    exact List.length_pos_of_mem hc
  rw [splitOn, cutAt?_append hmark hbefore]
  refine if_pos ?_
  simp only [List.length_append]
  omega

/-- Texts that were joined by a mark are cut apart again, where the mark has a special character and
the texts have none. -/
theorem splitOn_join {separator : String} {texts : List String}
    (hseparator : ∃ c ∈ separator.toList, p c = true)
    (htexts : ∀ text ∈ texts, ∀ c ∈ text.toList, p c = false) (hne : texts ≠ []) :
    (splitOn separator.toList (join separator texts).toList).map String.ofList = texts := by
  induction texts with
  | nil => exact absurd rfl hne
  | cons text rest ih =>
    obtain ⟨htext, hrest⟩ := List.forall_mem_cons.1 htexts
    cases rest with
    | nil => rw [join, splitOn_of_forall hseparator htext, List.map_singleton, String.ofList_toList]
    | cons next rest =>
      rw [join, String.toList_append, String.toList_append, List.append_assoc,
        splitOn_append hseparator htext, List.map_cons, String.ofList_toList,
        ih hrest (List.cons_ne_nil next rest)]

end Text

namespace Connector

/-! ## Payloads of items -/

/-- The payload of items falls apart into their texts at the occurrences of a separator that has a
control character, whatever the items hold. -/
theorem splitOn_payload {c : Connector} {record : Record} {items : List Json}
    (hvalue : record.value = .list items) (hne : items ≠ [])
    (hseparator : ∃ char ∈ c.config.lineSeparator.toList, Text.isControl char = true)
    (d : Destination) :
    ∃ payload, c.transform record d = (.ok (some payload), d) ∧
      (Text.splitOn c.config.lineSeparator.toList payload.toList).map String.ofList =
        items.map Json.text := by
  have htombstone : record.isTombstone = false := by
    rw [Record.isTombstone, hvalue]
    rfl
  refine ⟨listPayload c.config.lineSeparator items, ?_, ?_⟩
  · rw [transform, htombstone, hvalue]
    rfl
  · refine Text.splitOn_join hseparator ?_ (by simpa using hne)
    intro text htext char hchar
    obtain ⟨item, -, rfl⟩ := List.mem_map.1 htext
    rw [Json.text, String.toList_ofList] at hchar
    exact Json.not_control_of_mem_chars hchar

/-- A connector with a separator. -/
def separatedBy (separator : String) : Connector :=
  ofConfig { Config.minimal "c" "db" with lineSeparator := separator }

/-- A record of items. -/
def itemsRecord (items : List Json) : Record :=
  .ofValue "t" 0 0 none (.list items)

/-- The items fall apart also where a string and a key hold the separator, and where the separator
ends and begins like the items. -/
theorem splitOn_payload_nulls :
    let d := Destination.ofCatalog .empty .never
    (∃ payload, (separatedBy "\n").transform
        (itemsRecord [.string "a\nb", .object [("\n", .null)]]) d = (.ok (some payload), d) ∧
      (Text.splitOn ['\n'] payload.toList).map String.ofList =
        ["\"a\\nb\"", "\x7b\"\\n\":null\x7d"]) ∧
    ∃ payload, (separatedBy "l\nn").transform (itemsRecord [.null, .null, .null]) d =
        (.ok (some payload), d) ∧
      (Text.splitOn ['l', '\n', 'n'] payload.toList).map String.ofList =
        ["null", "null", "null"] := by
  intro d
  have hlines := @splitOn_payload (separatedBy "\n")
    (itemsRecord [.string "a\nb", .object [("\n", .null)]]) _ rfl (List.cons_ne_nil _ _)
    ⟨'\n', by decide, rfl⟩ d
  have hnulls := @splitOn_payload (separatedBy "l\nn") (itemsRecord [.null, .null, .null]) _ rfl
    (List.cons_ne_nil _ _) ⟨'\n', by decide, rfl⟩ d
  exact ⟨hlines, hnulls⟩

end Connector

end TableFeed
