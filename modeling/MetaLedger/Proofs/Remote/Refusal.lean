import Mathlib.Data.List.Find
import MetaLedger.Proofs.Text.Search
import MetaLedger.Remote.Client

/-!
# One refusal, told in two ways

A refused transaction is answered with a number and details where it was posted, and with one message that
holds both where it is watched. The introduction of the message overlaps with no word that is looked for
(`introduction_apart`), so the details decide in the message as they do alone, unless they hold the number
or the words of the other refusal (`refusals_agree`). A search does not see where a number ends: of all
messages that name no refusal, the ones with `1010` or `1014` inside a longer number can be taken for one.
-/

namespace MetaLedger.Remote

open Text (Apart StandsAlone StandsInNumber lower)

/-- The text holds the words, in capital or small letters. -/
def Mentions (words text : String) : Prop := words.toList <:+: (lower text).toList

instance (words text : String) : Decidable (Mentions words text) :=
  decidable_of_iff _ Text.occursIn_iff

theorem holdsOne_iff {words : List String} {text : String} :
    holdsOne words (lower text) = true ↔ ∃ word ∈ words, Mentions word text := by
  unfold holdsOne Mentions
  simp only [List.any_eq_true, Text.occursIn_iff]

/-! ### Fixed texts

A fixed text is looked at by its characters. -/

section Fixed

variable {part text : List Char}

theorem apart_ofList (h : Apart part (text.map Char.toLower)) :
    Apart (String.ofList part).toList (lower (String.ofList text)).toList := by
  rw [Text.toList_lower, String.toList_ofList, String.toList_ofList]
  exact h

theorem mentions_ofList_iff :
    Mentions (String.ofList part) (String.ofList text) ↔
      Text.isPartOf part (text.map Char.toLower) = true := by
  unfold Mentions
  rw [Text.toList_lower, String.toList_ofList, String.toList_ofList, Text.isPartOf_iff]

theorem standsAlone_ofList_iff :
    StandsAlone (String.ofList part).toList (String.ofList text).toList ↔ StandsAlone part text := by
  rw [String.toList_ofList, String.toList_ofList]

/-- Where it is no part at all, it stands neither alone nor in a number. -/
theorem not_stands_ofList (h : Text.isPartOf part text = false) :
    ¬StandsAlone (String.ofList part).toList (String.ofList text).toList ∧
      ¬StandsInNumber (String.ofList part).toList (String.ofList text).toList := by
  rw [String.toList_ofList, String.toList_ofList, ← not_or, ← Text.infix_iff_alone_or_inNumber,
    ← Text.isPartOf_iff, h]
  exact Bool.false_ne_true

end Fixed

/-! ## Reasons -/

/-- The words for an outdated transaction are looked for first. -/
theorem reasonIn?_of_outdated {text : String} (h : Mentions "outdated" text) :
    reasonIn? (lower text) = some .stale := by
  have hwords : holdsOne ["outdated", "stale"] (lower text) = true :=
    holdsOne_iff.2 ⟨"outdated", List.mem_cons_self, h⟩
  have hfound : marks.find? (fun entry => holdsOne entry.2 (lower text)) =
      some (.stale, ["outdated", "stale"]) := List.find?_cons_of_pos hwords
  exact congrArg (Option.map Prod.fst) hfound

theorem reasonIn?_ne_priorityTooLow (details : String) :
    reasonIn? details ≠ some .priorityTooLow := by
  intro h
  obtain ⟨entry, hfound, hreason⟩ := Option.map_eq_some_iff.1 h
  have hnone : ∀ entry ∈ marks, entry.1 ≠ .priorityTooLow := by decide
  exact hnone entry (List.mem_of_find?_eq_some hfound) hreason

theorem RpcError.rejection?_toNodeError (e : RpcError) : e.toNodeError.rejection? = e.reason? := by
  unfold RpcError.toNodeError
  cases e.reason? with
  | some reason => rfl
  | none => cases e.data <;> rfl

theorem rejection?_errorOfMessage (message : String) :
    (errorOfMessage message).rejection? = reasonOfMessage? message := by
  unfold errorOfMessage
  cases reasonOfMessage? message <;> rfl

/-- The text holds the number for too low a priority, wherever it stands, or the words for it. -/
def MentionsPriority (text : String) : Prop :=
  Mentions "1014" text ∨ Mentions "priority is too low" text

instance (text : String) : Decidable (MentionsPriority text) :=
  instDecidableOr

/-- What a message is taken for. -/
theorem reasonOfMessage?_eq (text : String) :
    reasonOfMessage? text =
      if MentionsPriority text then some .priorityTooLow
      else if Mentions "1010" text ∨ Mentions "invalid transaction" text then reasonIn? (lower text)
      else none := by
  have hpriority : holdsOne ["1014", "priority is too low"] (lower text) = true ↔
      MentionsPriority text := by
    rw [holdsOne_iff]
    simp [MentionsPriority]
  have hinvalid : holdsOne ["1010", "invalid transaction"] (lower text) = true ↔
      (Mentions "1010" text ∨ Mentions "invalid transaction" text) := by
    rw [holdsOne_iff]
    simp
  unfold reasonOfMessage?
  simp only [hpriority, hinvalid]

theorem errorOfMessage_of_priority {text : String} (h : MentionsPriority text) :
    errorOfMessage text = .rejected .priorityTooLow := by
  unfold errorOfMessage
  rw [reasonOfMessage?_eq, if_pos h]

/-! ## The same refusal -/

/-- The refusal of an invalid transaction, as a response holds it. -/
def refusal (details : String) : RpcError :=
  ⟨RpcError.refusalCode, "Invalid Transaction", some (.text (some details))⟩

/-- What stands before the details where a refusal is told as a message. -/
def introduction : String := "Rpc error: 1010: Invalid Transaction: "

/-- The refusal of an invalid transaction, as a message tells it. -/
def refusalMessage (details : String) : String := introduction ++ details

theorem reason?_refusal (details : String) : (refusal details).reason? = reasonIn? (lower details) :=
  rfl

/-- All words but those for the refusal itself. -/
theorem introduction_apart :
    (∀ word ∈ ["1014", "priority is too low"], Apart word.toList (lower introduction).toList) ∧
      ∀ entry ∈ marks, ∀ word ∈ entry.2, Apart word.toList (lower introduction).toList := by
  simp only [marks, List.forall_mem_cons, List.not_mem_nil, false_implies, implies_true, and_true]
  refine ⟨⟨?_, ?_⟩, ⟨?_, ?_⟩, ?_, ⟨?_, ?_⟩, ?_, ?_, ?_⟩
  all_goals exact apart_ofList (by decide)

theorem mentions_refusalMessage_iff {word : String}
    (h : Apart word.toList (lower introduction).toList) {details : String} :
    Mentions word (refusalMessage details) ↔ Mentions word details := by
  unfold Mentions refusalMessage
  rw [Text.lower_append, String.toList_append]
  exact Text.infix_append_iff_of_apart h

theorem holdsOne_refusalMessage {words : List String}
    (h : ∀ word ∈ words, Apart word.toList (lower introduction).toList) (details : String) :
    holdsOne words (lower (refusalMessage details)) = holdsOne words (lower details) := by
  rw [Bool.eq_iff_iff, holdsOne_iff, holdsOne_iff]
  refine exists_congr fun word => and_congr_right fun hword => ?_
  exact mentions_refusalMessage_iff (h word hword)

/-- The details give the same reason alone and in the message. -/
theorem reasonIn?_refusalMessage (details : String) :
    reasonIn? (lower (refusalMessage details)) = reasonIn? (lower details) := by
  have hwords : ∀ entry ∈ marks, holdsOne entry.2 (lower (refusalMessage details)) =
      holdsOne entry.2 (lower details) := fun entry hentry =>
    holdsOne_refusalMessage (introduction_apart.2 entry hentry) details
  exact congrArg (Option.map Prod.fst) (List.find?_congr hwords)

theorem mentionsPriority_refusalMessage_iff {details : String} :
    MentionsPriority (refusalMessage details) ↔ MentionsPriority details := by
  have hapart := introduction_apart.1
  refine or_congr (mentions_refusalMessage_iff (hapart _ ?_)) (mentions_refusalMessage_iff (hapart _ ?_))
  · exact List.mem_cons_self
  · exact List.mem_cons_of_mem _ List.mem_cons_self

/-- The introduction says that it is about a refusal. -/
theorem mentions_refusalMessage (details : String) : Mentions "1010" (refusalMessage details) := by
  have hintroduction : Mentions "1010" introduction := mentions_ofList_iff.2 (by decide)
  unfold Mentions refusalMessage
  rw [Text.lower_append, String.toList_append]
  exact hintroduction.trans (List.prefix_append _ _).isInfix

theorem reasonOfMessage?_refusalMessage (details : String) :
    reasonOfMessage? (refusalMessage details) =
      if MentionsPriority details then some .priorityTooLow else (refusal details).reason? := by
  simp only [reasonOfMessage?_eq, mentionsPriority_refusalMessage_iff, mentions_refusalMessage,
    true_or, if_true, reasonIn?_refusalMessage, reason?_refusal]

/-! ## Messages that name no refusal -/

/-- The message names a refusal, by a number or by fixed words. -/
def NamesRefusal (text : String) : Prop :=
  StandsAlone "1010".toList text.toList ∨ StandsAlone "1014".toList text.toList ∨
    Mentions "invalid transaction" text ∨ Mentions "priority is too low" text

/-- Where a number is found that does not stand for itself, it stands in a longer one. -/
theorem mentions_number_iff {number text : String}
    (hnumber : number.toList.all Char.isDigit = true)
    (halone : ¬StandsAlone number.toList text.toList) :
    Mentions number text ↔ StandsInNumber number.toList text.toList := by
  unfold Mentions
  rw [Text.infix_lower_iff (List.all_eq_true.1 hnumber), Text.infix_iff_alone_or_inNumber]
  exact or_iff_right halone

theorem reasonOfMessage?_of_unnamed {text : String} (h : ¬NamesRefusal text) :
    reasonOfMessage? text =
      if StandsInNumber "1014".toList text.toList then some .priorityTooLow
      else if StandsInNumber "1010".toList text.toList then reasonIn? (lower text)
      else none := by
  simp only [NamesRefusal, not_or] at h
  obtain ⟨hrefusal, hpriority, hinvalid, hlow⟩ := h
  have hfirst := mentions_number_iff (by decide) hpriority
  have hsecond := mentions_number_iff (by decide) hrefusal
  simp only [reasonOfMessage?_eq, MentionsPriority, hfirst, hsecond, hlow, hinvalid, or_false]

/-- Why nothing is subscribed to at a client's place is told as any other message. -/
theorem serve_of_urlRefusal {c : Client} {url message : String} (hopen : c.closed = false)
    (hwatch : c.config.watchUrl = some url) (hidle : c.watching = none)
    (hrefusal : urlRefusal? url = some message) (net : Network) (x : Extrinsic) :
    (c.serve net (.submitAndWatch x)).1 = .error (errorOfMessage message) := by
  have hrefused : c.connected net = .error (errorOfMessage message) := by
    unfold Client.connected
    simp only [hopen, hwatch, hidle, hrefusal, Bool.false_eq_true, if_false]
  show (c.watch net x).1 = _
  unfold Client.watch
  rw [hrefused]

/-! ## Two ways -/

/-- **A refusal is the same refusal, posted or watched.** The two ways give one reason, or none, for the
same details, save those that hold the number or the words for too low a priority; these are told so
where they are watched. A message that names no refusal is taken for none, unless a number in it holds
one of the two: `1014` for too low a priority, and `1010` for what reason there is in its words. -/
theorem refusals_agree (details text : String) :
    ((errorOfMessage (refusalMessage details)).rejection? =
        (refusal details).toNodeError.rejection? ↔ ¬MentionsPriority details) ∧
    (MentionsPriority details →
      (errorOfMessage (refusalMessage details)).rejection? = some .priorityTooLow) ∧
    (¬NamesRefusal text →
      (StandsInNumber "1014".toList text.toList →
        (errorOfMessage text).rejection? = some .priorityTooLow) ∧
      (¬StandsInNumber "1014".toList text.toList → StandsInNumber "1010".toList text.toList →
        (errorOfMessage text).rejection? = reasonIn? (lower text)) ∧
      (¬StandsInNumber "1014".toList text.toList → ¬StandsInNumber "1010".toList text.toList →
        (errorOfMessage text).rejection? = none)) := by
  simp only [rejection?_errorOfMessage, RpcError.rejection?_toNodeError,
    reasonOfMessage?_refusalMessage]
  refine ⟨?_, fun h => if_pos h, fun hunnamed => ?_⟩
  · by_cases h : MentionsPriority details
    · -- The number of this refusal gives one of the other reasons, or none.
      rw [if_pos h, reason?_refusal]
      exact iff_of_false (reasonIn?_ne_priorityTooLow _).symm (not_not_intro h)
    · rw [if_neg h]
      exact iff_of_true rfl h
  · rw [reasonOfMessage?_of_unnamed hunnamed]
    refine ⟨fun h14 => if_pos h14, fun h14 h10 => ?_, fun h14 h10 => ?_⟩
    · rw [if_neg h14, if_pos h10]
    · rw [if_neg h14, if_neg h10]

/-- An outdated transaction, and a connection that is lost. -/
theorem refusals_agree_outdated :
    let details := "Transaction is outdated"
    let text := "connection reset by peer"
    ¬MentionsPriority details ∧ ¬NamesRefusal text ∧
      (errorOfMessage (refusalMessage details)).rejection? = some .stale ∧
      (refusal details).toNodeError.rejection? = some .stale ∧
      (errorOfMessage text).rejection? = none := by
  intro details text
  have hdetails : ¬MentionsPriority details := by
    refine not_or.2 ⟨mt mentions_ofList_iff.1 ?_, mt mentions_ofList_iff.1 ?_⟩
    all_goals decide
  have hinvalid : ¬StandsAlone "1010".toList text.toList ∧ ¬StandsInNumber "1010".toList text.toList :=
    not_stands_ofList (by decide)
  have hpriority : ¬StandsAlone "1014".toList text.toList ∧
      ¬StandsInNumber "1014".toList text.toList := not_stands_ofList (by decide)
  have htext : ¬NamesRefusal text := by
    simp only [NamesRefusal, not_or]
    refine ⟨hinvalid.1, hpriority.1, mt mentions_ofList_iff.1 ?_, mt mentions_ofList_iff.1 ?_⟩
    all_goals decide
  have hstale : (refusal details).toNodeError.rejection? = some .stale := by
    rw [RpcError.rejection?_toNodeError, reason?_refusal]
    exact reasonIn?_of_outdated (mentions_ofList_iff.2 (by decide))
  obtain ⟨hagree, -, hunnamed⟩ := refusals_agree details text
  exact ⟨hdetails, htext, (hagree.2 hdetails).trans hstale, hstale,
    (hunnamed htext).2.2 hpriority.2 hinvalid.2⟩

/-- The details speak of a block by its number, and a place to subscribe has a number of five digits: both
are taken for a transaction of too low a priority, though nothing is handed in at that place. -/
theorem refusals_disagree :
    let details := "Transaction is outdated (block 1014)"
    let url := "ws://example.com:10140"
    let text := "Rpc error: RPC error: insecure URL: ws://example.com:10140"
    let c : Client := { config := { watchUrl := some url } }
    (refusal details).toNodeError.rejection? = some .stale ∧
    (errorOfMessage (refusalMessage details)).rejection? = some .priorityTooLow ∧
    ¬NamesRefusal text ∧ urlRefusal? url = some text ∧
      ∀ net x, (c.serve net (.submitAndWatch x)).1 = .error (.rejected .priorityTooLow) := by
  intro details url text c
  have hdetails : MentionsPriority details := .inl (mentions_ofList_iff.2 (by decide))
  have hunnamed : ¬NamesRefusal text := by
    simp only [NamesRefusal, not_or]
    refine ⟨(not_stands_ofList ?_).1, mt standsAlone_ofList_iff.1 ?_,
      mt mentions_ofList_iff.1 ?_, mt mentions_ofList_iff.1 ?_⟩
    all_goals decide
  have hurl : urlRefusal? url = some text := by decide
  have hnumber : MentionsPriority text := .inl (mentions_ofList_iff.2 (by decide))
  refine ⟨?_, ?_, hunnamed, hurl, fun net x => ?_⟩
  · rw [RpcError.rejection?_toNodeError, reason?_refusal]
    exact reasonIn?_of_outdated (mentions_ofList_iff.2 (by decide))
  · rw [rejection?_errorOfMessage, reasonOfMessage?_refusalMessage, if_pos hdetails]
  · have hmessage : errorOfMessage text = .rejected .priorityTooLow := errorOfMessage_of_priority hnumber
    rw [← hmessage]
    exact serve_of_urlRefusal rfl rfl rfl hurl net x

end MetaLedger.Remote
