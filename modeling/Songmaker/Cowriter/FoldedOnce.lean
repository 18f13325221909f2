import Songmaker.Cowriter.ConversationTurns

namespace Songmaker.Cowriter.FoldedOnce

open Songmaker.Foundation
open Songmaker.Foundation.BudgetedTail
open Songmaker.Cowriter.History
open Songmaker.Cowriter.ConversationTurns

/-- The folded messages that are left come before the others, and a boundary is
the last of them. -/
def Split (conversation : Conversation) (before rest : List ChatMessage) : Prop :=
  conversation.messages = before ++ rest ∧
    (∀ message ∈ before, message.id ∈ conversation.folded) ∧
    (∀ message ∈ rest, message.id ∉ conversation.folded) ∧
    ∀ boundary, conversation.boundary = some boundary →
      ∃ earlier last, before = earlier ++ [last] ∧ last.id = boundary

/-- The messages are cut in two at the summary's boundary. -/
structure Invariant (conversation : Conversation) : Prop where
  ordered : Ordered conversation.messages
  fresh : ∀ message ∈ conversation.messages, message.id < conversation.nextId
  folded_fresh : ∀ id ∈ conversation.folded, id < conversation.nextId
  split : ∃ before rest, Split conversation before rest
  kept : Kept conversation

/-- What a turn sends and its own message, when it is sent again, are the whole
conversation. -/
theorem historyBefore_append (messages : List ChatMessage) (message : List Char) :
    historyBefore messages message ++ (unansweredMessageSentAgain messages message).toList =
      messages := by
  unfold historyBefore
  rcases hagain : unansweredMessageSentAgain messages message with _ | last
  · exact List.append_nil _
  · have hlast : messages.getLast? = some last := by
      unfold unansweredMessageSentAgain at hagain
      split at hagain
      · rename_i hlast
        split at hagain
        · rw [hlast, hagain]
        · exact absurd hagain (by simp)
      · exact absurd hagain (by simp)
    obtain ⟨_, rfl⟩ := List.getLast?_eq_some_iff.mp hlast
    simp

section Window

variable {conversation : Conversation} {history resent : List ChatMessage}

theorem unsummarizedMessages_cases (hordered : Ordered history)
    (existing : Option ConversationSummary) :
    (∃ summarized boundary after, history = summarized ++ boundary :: after ∧
        existing.bind (·.lastSummarizedMessageId) = some boundary.id ∧
        unsummarizedMessages history existing = (some boundary.id, after)) ∨
      (∀ message ∈ history, existing.bind (·.lastSummarizedMessageId) ≠ some message.id) ∧
        unsummarizedMessages history existing = (none, history) := by
  by_cases hfound : ∃ message ∈ history,
      existing.bind (·.lastSummarizedMessageId) = some message.id
  · obtain ⟨boundary, hmem, hboundary⟩ := hfound
    obtain ⟨summarized, after, rfl⟩ := List.append_of_mem hmem
    refine .inl ⟨summarized, boundary, after, rfl, hboundary, ?_⟩
    apply unsummarizedMessages_append hboundary
    intro message hmessage
    exact Nat.ne_of_lt (hordered.id_lt hmessage List.mem_cons_self)
  · push Not at hfound
    refine .inr ⟨hfound, unsummarizedMessages_of_not_mem ?_⟩
    rintro boundaryId hboundary message hmessage rfl
    exact hfound message hmessage hboundary

theorem unsummarizedMessages_fst {existing : Option ConversationSummary} {boundary : Nat}
    (h : (unsummarizedMessages history existing).1 = some boundary) :
    existing.bind (·.lastSummarizedMessageId) = some boundary := by
  unfold unsummarizedMessages at h
  split at h
  · exact absurd h (by simp)
  · rename_i hboundary
    split at h
    · exact absurd h (by simp)
    · exact hboundary.trans h

theorem mem_unsummarizedMessages (hordered : Ordered history) {message : ChatMessage}
    (hmessage : message ∈ history)
    (hafter : ∀ boundary ∈ conversation.boundary, boundary < message.id) :
    message ∈ (unsummarizedMessages history conversation.summary).2 := by
  rcases unsummarizedMessages_cases hordered conversation.summary with
    ⟨summarized, boundary, after, rfl, hboundary, hresult⟩ | ⟨-, hresult⟩
  · rw [hresult]
    have hlt := hafter boundary.id hboundary
    rcases List.mem_append.mp hmessage with hmessage | hmessage
    · have := hordered.id_lt hmessage List.mem_cons_self
      omega
    · rcases List.mem_cons.mp hmessage with rfl | hmessage
      · omega
      · exact hmessage
  · rw [hresult]
    exact hmessage

/-- A turn that finds its boundary folds the first of the messages that were not
folded before. -/
theorem rest_eq_messagesToFold_append (hI : Invariant conversation)
    (hhistory : history ++ resent = conversation.messages)
    {before rest : List ChatMessage} (hsplit : Split conversation before rest) {budget : Nat}
    (hfinds : history.length ≤ 1 ∨ (∃ sent ∈ history, conversation.boundary = some sent.id) ∨
      ∀ sent ∈ history, sent.id ∉ conversation.folded) :
    ∃ later, rest = messagesToFold history budget conversation.summary ++ later := by
  obtain ⟨hmessages, hbefore, hrest, hlast⟩ := hsplit
  have hordered : Ordered (history ++ resent) := hhistory ▸ hI.ordered
  have hhistoryOrdered : Ordered history := (List.pairwise_append.mp hordered).1
  have htail := messagesToFold_append_tail history budget conversation.summary
  rcases unsummarizedMessages_cases hhistoryOrdered conversation.summary with
    ⟨summarized, boundary, after, hparts, hboundary, hresult⟩ | ⟨hlost, hresult⟩
  · obtain ⟨earlier, last, rfl, hid⟩ := hlast boundary.id hboundary
    have hsame : summarized ++ boundary :: (after ++ resent) = earlier ++ last :: rest := by
      simpa [hparts] using hhistory.trans hmessages
    have hfull : Ordered (summarized ++ boundary :: (after ++ resent)) := by
      simpa [hparts] using hordered
    have hboundaryLast : last = boundary :=
      hfull.eq_of_id (by simp [hsame]) (by simp) hid
    have hrestParts : after ++ resent = rest := by
      rw [hboundaryLast] at hsame
      refine ((List.append_cons_inj_of_notMem ?_ ?_).mp hsame).2.2
      · intro hmem
        exact Nat.lt_irrefl _ (hfull.id_lt hmem List.mem_cons_self)
      · intro hmem
        have hafterBoundary := (List.pairwise_append.mp hfull).2.1
        exact Nat.lt_irrefl _ ((List.pairwise_cons.mp hafterBoundary).1 boundary hmem)
    refine ⟨newestFittingTail (unsummarizedMessages history conversation.summary).2 budget ++
      resent, ?_⟩
    rw [← List.append_assoc, htail, hresult, hrestParts]
  · rcases hfinds with hone | ⟨sent, hsent, hboundary⟩ | hnew
    · rw [messagesToFold_of_length_le_one budget _ hone (by rw [hresult])]
      exact ⟨rest, rfl⟩
    · exact absurd hboundary (hlost sent hsent)
    · rcases history with _ | ⟨first, others⟩
      · rw [messagesToFold_of_length_le_one budget _ (by simp) (by rw [hresult])]
        exact ⟨rest, rfl⟩
      · have hnone : before = [] := by
          rcases before with _ | ⟨head, _⟩
          · rfl
          · obtain ⟨rfl, -⟩ := List.cons_eq_cons.mp (hhistory.trans hmessages)
            exact absurd (hbefore first List.mem_cons_self) (hnew first List.mem_cons_self)
        refine ⟨newestFittingTail (unsummarizedMessages (first :: others)
          conversation.summary).2 budget ++ resent, ?_⟩
        rw [← List.append_assoc, htail, hresult, hhistory, hmessages, hnone, List.nil_append]

end Window

theorem appendMessage_invariant {conversation : Conversation} (hI : Invariant conversation)
    (role : Role) (content : List Char) : Invariant (appendMessage conversation role content) := by
  obtain ⟨before, rest, hmessages, hbefore, hrest, hlast⟩ := hI.split
  constructor
  · refine List.pairwise_append.mpr ⟨hI.ordered, List.pairwise_singleton _ _, ?_⟩
    intro earlier hearlier later hlater
    obtain rfl := List.mem_singleton.mp hlater
    exact hI.fresh earlier hearlier
  · intro message hmessage
    rcases List.mem_append.mp hmessage with hmessage | hmessage
    · exact Nat.lt_succ_of_lt (hI.fresh message hmessage)
    · obtain rfl := List.mem_singleton.mp hmessage
      exact Nat.lt_succ_self _
  · exact fun id hid => Nat.lt_succ_of_lt (hI.folded_fresh id hid)
  · refine ⟨before, rest ++ [⟨conversation.nextId, role, content⟩], ?_, hbefore, ?_, hlast⟩
    · rw [← List.append_assoc, ← hmessages]
      rfl
    · intro message hmessage
      rcases List.mem_append.mp hmessage with hmessage | hmessage
      · exact hrest message hmessage
      · obtain rfl := List.mem_singleton.mp hmessage
        exact fun hfolded => Nat.lt_irrefl _ (hI.folded_fresh _ hfolded)
  · exact hI.kept

theorem deleteMessages_invariant {conversation : Conversation} (hI : Invariant conversation)
    (gone : List Nat) : Invariant (deleteMessages conversation gone) := by
  obtain ⟨before, rest, hmessages, hbefore, hrest, hlast⟩ := hI.split
  constructor
  · exact hI.ordered.filter _
  · exact fun message hmessage => hI.fresh message (List.mem_filter.mp hmessage).1
  · exact hI.folded_fresh
  · refine ⟨before.filter (·.id ∉ gone), rest.filter (·.id ∉ gone), ?_, ?_, ?_, ?_⟩
    · rw [← List.filter_append, ← hmessages]
      rfl
    · exact fun message hmessage => hbefore message (List.mem_filter.mp hmessage).1
    · exact fun message hmessage => hrest message (List.mem_filter.mp hmessage).1
    · intro boundary hboundary
      have hkept : conversation.boundary = some boundary ∧ boundary ∉ gone := by
        rcases hsummary : conversation.summary with _ | summary
        · simp [Conversation.boundary, deleteMessages, hsummary] at hboundary
        · simpa [Conversation.boundary, deleteMessages, hsummary,
            Option.filter_eq_some_iff] using hboundary
      obtain ⟨earlier, last, rfl, rfl⟩ := hlast boundary hkept.1
      refine ⟨earlier.filter (·.id ∉ gone), last, ?_, rfl⟩
      simp [hkept.2]
  · exact hI.kept

section Turns

variable {conversation : Conversation} {history resent : List ChatMessage} {budget : Nat}

/-- The summary that a turn leaves, the messages it folded included. -/
def savedTurn (conversation : Conversation) (history : List ChatMessage) (budget : Nat) :
    Conversation :=
  let compacted :=
    compactConversation history budget conversation.summary (some foldingSummarizer)
  saveCompactedSummary conversation history compacted
    (if compacted.windowed then messagesToFold history budget conversation.summary else [])

theorem savedTurn_of_le (hfits : messageTokens history ≤ budget) :
    savedTurn conversation history budget = conversation := by
  unfold savedTurn
  rw [compactConversation_of_le _ _ _ _ hfits]
  rfl

theorem savedTurn_of_lt (hover : budget < messageTokens history) :
    ∃ summary : ConversationSummary,
      summary.lastSummarizedMessageId =
        ((messagesToFold history budget conversation.summary).getLast?.map (·.id)).or
          (unsummarizedMessages history conversation.summary).1 ∧
      savedTurn conversation history budget =
        { conversation with
          summary := some summary
          folded := conversation.folded ++
            (messagesToFold history budget conversation.summary).map (·.id) } := by
  obtain ⟨text, htext⟩ := compactConversation_of_lt history budget conversation.summary hover
  unfold savedTurn
  rw [show foldingSummarizer = fun p f => some (foldSummary p f) from rfl, htext]
  exact ⟨_, rfl, rfl⟩

theorem fold_invariant (hI : Invariant conversation) {before toFold later : List ChatMessage}
    (hsplit : Split conversation before (toFold ++ later)) {summary : ConversationSummary}
    {already : Option Nat}
    (hboundary : summary.lastSummarizedMessageId = (toFold.getLast?.map (·.id)).or already)
    (halready : ∀ boundary, already = some boundary → conversation.boundary = some boundary) :
    Invariant
      { conversation with
        summary := some summary
        folded := conversation.folded ++ toFold.map (·.id) } := by
  obtain ⟨hmessages, hbefore, hrest, hlast⟩ := hsplit
  have hfoldMem : ∀ message ∈ toFold, message ∈ conversation.messages := fun message hmessage => by
    simp [hmessages, hmessage]
  have hordered : Ordered (toFold ++ later) :=
    (List.pairwise_append.mp (hmessages ▸ hI.ordered)).2.1
  constructor
  · exact hI.ordered
  · exact hI.fresh
  · intro id hid
    rcases List.mem_append.mp hid with hid | hid
    · exact hI.folded_fresh id hid
    · obtain ⟨message, hmessage, rfl⟩ := List.mem_map.mp hid
      exact hI.fresh message (hfoldMem message hmessage)
  · refine ⟨before ++ toFold, later, ?_, ?_, ?_, ?_⟩
    · rw [List.append_assoc, ← hmessages]
    · intro message hmessage
      rcases List.mem_append.mp hmessage with hmessage | hmessage
      · exact List.mem_append_left _ (hbefore message hmessage)
      · exact List.mem_append_right _ (List.mem_map_of_mem hmessage)
    · intro message hmessage hfolded
      rcases List.mem_append.mp hfolded with hfolded | hfolded
      · exact hrest message (List.mem_append_right _ hmessage) hfolded
      · obtain ⟨folded, hmem, hid⟩ := List.mem_map.mp hfolded
        exact Nat.ne_of_lt (hordered.id_lt hmem hmessage) hid
    · intro boundary hnew
      have hnew : (toFold.getLast?.map (·.id)).or already = some boundary := hboundary ▸ hnew
      rcases List.eq_nil_or_concat toFold with rfl | ⟨earlier, last, rfl⟩
      · rw [List.append_nil]
        exact hlast boundary (halready boundary hnew)
      · refine ⟨before ++ earlier, last, by simp, ?_⟩
        simpa using hnew
  · refine ⟨?_, hI.kept.2⟩
    refine List.nodup_append.mpr ⟨hI.kept.1, Ordered.nodup_ids ?_, ?_⟩
    · exact (List.pairwise_append.mp hordered).1
    · rintro id hid _ hnew rfl
      obtain ⟨message, hmessage, rfl⟩ := List.mem_map.mp hnew
      exact hrest message (List.mem_append_left _ hmessage) hid

theorem savedTurn_invariant (hI : Invariant conversation)
    (hhistory : history ++ resent = conversation.messages)
    (hfinds : messageTokens history ≤ budget ∨ history.length ≤ 1 ∨
      (∃ sent ∈ history, conversation.boundary = some sent.id) ∨
      ∀ sent ∈ history, sent.id ∉ conversation.folded) :
    Invariant (savedTurn conversation history budget) := by
  rcases Nat.lt_or_ge budget (messageTokens history) with hover | hfits
  · obtain ⟨before, rest, hsplit⟩ := hI.split
    obtain ⟨later, rfl⟩ : ∃ later,
        rest = messagesToFold history budget conversation.summary ++ later :=
      rest_eq_messagesToFold_append hI hhistory hsplit (hfinds.resolve_left (Nat.not_le.mpr hover))
    obtain ⟨summary, hboundary, hsaved⟩ := savedTurn_of_lt hover
    rw [hsaved]
    exact fold_invariant hI hsplit hboundary fun _ => unsummarizedMessages_fst
  · rw [savedTurn_of_le hfits]
    exact hI

theorem savedTurn_folds_again (hI : Invariant conversation)
    (hhistory : history ++ resent = conversation.messages)
    (hover : budget < messageTokens history) (hmany : 1 < history.length)
    (hlost : ∀ sent ∈ history, conversation.boundary ≠ some sent.id)
    (hfolded : ∃ sent ∈ history, sent.id ∈ conversation.folded) :
    ¬ (savedTurn conversation history budget).folded.Nodup := by
  intro honce
  obtain ⟨before, rest, hmessages, hbefore, hrest, -⟩ := hI.split
  have hall : (unsummarizedMessages history conversation.summary).2 = history := by
    rw [unsummarizedMessages_of_not_mem]
    rintro boundaryId hboundary message hmessage rfl
    exact hlost message hmessage hboundary
  have hne := messagesToFold_ne_nil hmany hover hall
  have htail := messagesToFold_append_tail history budget conversation.summary
  obtain ⟨summary, -, hsaved⟩ := savedTurn_of_lt hover
  rw [hsaved] at honce
  rcases hfold : messagesToFold history budget conversation.summary with _ | ⟨first, others⟩
  · exact hne hfold
  · rw [hfold, hall] at htail
    have hfirst : first.id ∈ conversation.folded := by
      obtain ⟨sent, hsent, hsentFolded⟩ := hfolded
      have hparts : first :: (others ++ newestFittingTail history budget ++ resent) =
          before ++ rest := by
        rw [← hmessages, ← hhistory]
        exact congrArg (· ++ resent) htail
      rcases before with _ | ⟨head, _⟩
      · refine absurd hsentFolded (hrest sent ?_)
        rw [← List.nil_append rest, ← hmessages, ← hhistory]
        exact List.mem_append_left _ hsent
      · obtain ⟨rfl, -⟩ := List.cons_eq_cons.mp hparts
        exact hbefore first List.mem_cons_self
    have hdisjoint := (List.nodup_append.mp honce).2.2 first.id hfirst first.id
    exact hdisjoint (by simp [hfold]) rfl

theorem turn_kept (hI : Invariant conversation) (message wrapped : List Char) :
    let history := historyBefore conversation.messages message
    let compacted :=
      compactConversation history budget conversation.summary (some foldingSummarizer)
    Turn.Kept
      { budget := budget
        boundary := conversation.boundary
        history := conversation.messages
        folded := if compacted.windowed then
          messagesToFold history budget conversation.summary else []
        tail := compacted.tail
        userMessage := (unansweredMessageSentAgain conversation.messages message).getD
          ⟨conversation.nextId, .user, message⟩
        sent := compacted.toApiMessages ++ [⟨.user, wrapped⟩] } := by
  intro history compacted
  have hhistory : history ++ (unansweredMessageSentAgain conversation.messages message).toList =
      conversation.messages := historyBefore_append conversation.messages message
  have hordered : Ordered history := (List.pairwise_append.mp (hhistory ▸ hI.ordered)).1
  constructor
  · intro sent hsent hafter
    rw [← hhistory] at hsent
    rcases List.mem_append.mp hsent with hsent | hresent
    · by_cases hfits : messageTokens history ≤ budget
      · left
        rw [show compacted = _ from compactConversation_of_le _ _ _ _ hfits]
        exact hsent
      · obtain ⟨text, htext⟩ := compactConversation_of_lt history budget conversation.summary
          (Nat.not_le.mp hfits)
        have hread := mem_unsummarizedMessages hordered hsent hafter
        rw [← messagesToFold_append_tail history budget] at hread
        rw [show compacted = _ from htext]
        rcases List.mem_append.mp hread with hread | hread
        · exact .inr (.inl hread)
        · exact .inl hread
    · right
      right
      rw [Option.mem_toList.mp hresent]
      rfl
  · refine ⟨_, [⟨.user, wrapped⟩], rfl⟩
  · exact compactConversation_tail_fits history budget conversation.summary

end Turns

theorem findsBoundary_turn {conversation : Conversation} {message wrapped : List Char}
    {tailBudget : Nat} {crash : Option Crash} (hcrash : crash ≠ some .beforeSummary) :
    FindsBoundary conversation (.turn message wrapped tailBudget crash) ↔
      messageTokens (historyBefore conversation.messages message) ≤ tailBudget ∨
      (historyBefore conversation.messages message).length ≤ 1 ∨
      (∃ sent ∈ historyBefore conversation.messages message,
        conversation.boundary = some sent.id) ∨
      ∀ sent ∈ historyBefore conversation.messages message, sent.id ∉ conversation.folded :=
  or_iff_right hcrash

theorem Invariant.sent {conversation : Conversation} (hI : Invariant conversation) {turn : Turn}
    (hturn : turn.Kept) :
    Invariant { conversation with turns := conversation.turns ++ [turn] } where
  ordered := hI.ordered
  fresh := hI.fresh
  folded_fresh := hI.folded_fresh
  split := hI.split
  kept := ⟨hI.kept.1, List.forall_mem_append.mpr ⟨hI.kept.2, by simpa using hturn⟩⟩

theorem prepareChatMessages_invariant {conversation : Conversation} (hI : Invariant conversation)
    (message wrapped : List Char) (tailBudget : Nat) (crash : Option Crash)
    (hfinds : FindsBoundary conversation (.turn message wrapped tailBudget crash)) :
    Invariant (prepareChatMessages conversation message wrapped tailBudget crash) := by
  have hhistory := historyBefore_append conversation.messages message
  rcases crash with _ | (_ | _)
  · have hsaved : Invariant (savedTurn conversation (historyBefore conversation.messages message)
        tailBudget) :=
      savedTurn_invariant hI hhistory ((findsBoundary_turn (by simp)).mp hfinds)
    have hstored : Invariant
        (if (unansweredMessageSentAgain conversation.messages message).isSome then
          savedTurn conversation (historyBefore conversation.messages message) tailBudget
        else
          appendMessage (savedTurn conversation (historyBefore conversation.messages message)
            tailBudget) .user message) := by
      split
      · exact hsaved
      · exact appendMessage_invariant hsaved .user message
    exact hstored.sent (turn_kept hI message wrapped)
  · exact hI
  · exact savedTurn_invariant hI hhistory ((findsBoundary_turn (by simp)).mp hfinds)

theorem act_invariant {conversation next : Conversation} {action : Action}
    (hI : Invariant conversation) (hstep : act conversation action = some next)
    (hfinds : FindsBoundary conversation action) : Invariant next := by
  rcases action with ⟨message, wrapped, tailBudget, crash⟩ | content | gone
  · obtain rfl := Option.some.inj hstep
    exact prepareChatMessages_invariant hI message wrapped tailBudget crash hfinds
  · obtain rfl := Option.some.inj hstep
    exact appendMessage_invariant hI .assistant content
  · obtain rfl := Option.some.inj hstep
    exact deleteMessages_invariant hI gone

theorem prepareChatMessages_folded {conversation : Conversation} {message wrapped : List Char}
    {tailBudget : Nat} {crash : Option Crash} (hcrash : crash ≠ some .beforeSummary) :
    (prepareChatMessages conversation message wrapped tailBudget crash).folded =
      (savedTurn conversation (historyBefore conversation.messages message) tailBudget).folded := by
  rcases crash with _ | (_ | _)
  · unfold prepareChatMessages
    dsimp only
    split <;> rfl
  · exact absurd rfl hcrash
  · rfl

theorem act_breaks {conversation next : Conversation} {action : Action}
    (hI : Invariant conversation) (hstep : act conversation action = some next)
    (hfinds : ¬ FindsBoundary conversation action) : ¬ Kept next := by
  rcases action with ⟨message, wrapped, tailBudget, crash⟩ | content | gone
  · obtain rfl := Option.some.inj hstep
    simp only [FindsBoundary, not_or, not_le, not_exists, not_and, not_forall, not_not] at hfinds
    obtain ⟨hcrash, hover, hmany, hlost, sent, hsent, hfolded⟩ := hfinds
    rintro ⟨honce, -⟩
    rw [prepareChatMessages_folded hcrash] at honce
    exact savedTurn_folds_again hI (historyBefore_append conversation.messages message)
      hover hmany hlost ⟨sent, hsent, hfolded⟩ honce
  · exact absurd trivial hfinds
  · exact absurd trivial hfinds

theorem opened_invariant : Invariant opened where
  ordered := List.Pairwise.nil
  fresh := by simp [opened]
  folded_fresh := by simp [opened]
  split := ⟨[], [], rfl, by simp, by simp, by simp [Conversation.boundary, opened]⟩
  kept := ⟨List.nodup_nil, by simp [opened]⟩

/-- Along a run of turns, replies and deletions, no message is folded twice and
every turn is kept, exactly when every turn finds its boundary. -/
theorem kept_iff_turns_find_boundary {run : List (Action × Conversation)}
    (hrun : conversations.IsRun opened run) :
    (∀ conversation ∈ TransitionSystem.visited opened run, Kept conversation) ↔
      TransitionSystem.StepsMeet FindsBoundary opened run :=
  TransitionSystem.forall_visited_iff_stepsMeet (M := conversations) (I := Invariant)
    (fun _ hI => hI.kept) (fun _ _ _ hI hstep hok => act_invariant hI hstep hok)
    (fun _ _ _ hI hstep hbad => act_breaks hI hstep hbad) opened_invariant hrun

/-- A reply of 8004 characters counts for more than the smallest budget that can be set. -/
def longReply : List Char :=
  List.replicate 8004 'y'

/-- Three turns, the second and third with messages to fold. -/
def foldingTurns : List Action :=
  [.turn ['a'] ['a'] 2000 none, .reply longReply, .turn ['b'] ['b'] 2000 none, .reply longReply,
    .turn ['c'] ['c'] 2000 none]

theorem kept_iff_turns_find_boundary_folding :
    (TransitionSystem.lastOf opened
      (TransitionSystem.follow act opened foldingTurns)).folded = [0, 1, 2] ∧
      ∀ conversation ∈ TransitionSystem.visited opened
        (TransitionSystem.follow act opened foldingTurns), Kept conversation := by
  constructor
  · decide +kernel
  · exact (kept_iff_turns_find_boundary
      (TransitionSystem.isRun_follow (· = opened) act opened foldingTurns)).mpr (by decide +kernel)

/-- After those turns the messages of the second one are deleted, the boundary
with them, and the next turn folds the first ones again. -/
def boundaryDeleted : List Action :=
  foldingTurns ++ [.delete [2, 3], .reply longReply, .turn ['d'] ['d'] 2000 none]

theorem deleted_boundary_folds_again :
    ¬ ∀ actions, ∀ conversation ∈ TransitionSystem.visited opened
      (TransitionSystem.follow act opened actions), Kept conversation := by
  intro hkept
  have hlast := hkept boundaryDeleted
    (TransitionSystem.lastOf opened (TransitionSystem.follow act opened boundaryDeleted))
    (TransitionSystem.lastOf_mem_visited _ _)
  exact absurd hlast.1 (by decide +kernel)

end Songmaker.Cowriter.FoldedOnce
