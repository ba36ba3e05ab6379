import IssueFilter.Proofs.Message.Distinct

/-! Message sets that come about by adding. Whatever is added and however it is grouped into sets, a channel has
the texts that were added to it, each once and where it came first; what is added to the other channel makes
no difference. -/
namespace IssueFilter

inductive Channel where
  | errors
  | warnings
  deriving DecidableEq, Repr

/-- One thing that is done to a message set: a text is added to a channel, or a set is added that came
about in the same way. -/
inductive Addition where
  | single (channel : Channel) (text : String)
  | set (additions : List Addition)
  deriving Repr

mutual

/-- The texts for a channel, those in added sets included, in the order in which they are added. -/
def Addition.textsFor (channel : Channel) : Addition → List String
  | .single other text => if other = channel then [text] else []
  | .set additions => Addition.textsOfList channel additions

def Addition.textsOfList (channel : Channel) : List Addition → List String
  | [] => []
  | addition :: additions => addition.textsFor channel ++ Addition.textsOfList channel additions

end

namespace MessageSet

def texts (messages : MessageSet) : Channel → List String
  | .errors => messages.errors
  | .warnings => messages.warnings

def add (messages : MessageSet) : Channel → String → MessageSet
  | .errors => messages.addError
  | .warnings => messages.addWarning

mutual

def after (messages : MessageSet) : Addition → MessageSet
  | .single channel text => messages.add channel text
  | .set additions => messages.merge (afterAll .empty additions)

def afterAll (messages : MessageSet) : List Addition → MessageSet
  | [] => messages
  | addition :: additions => afterAll (messages.after addition) additions

end

theorem texts_inj {a b : MessageSet} : (∀ channel, a.texts channel = b.texts channel) ↔ a = b := by
  constructor
  · intro same
    have errors : a.errors = b.errors := same .errors
    have warnings : a.warnings = b.warnings := same .warnings
    cases a
    cases b
    cases errors
    cases warnings
    rfl
  · rintro rfl channel
    rfl

theorem texts_empty (channel : Channel) : empty.texts channel = [] := by
  cases channel <;> rfl

theorem texts_add (messages : MessageSet) (channel other : Channel) (text : String) :
    (messages.add other text).texts channel =
      if other = channel then insertText (messages.texts channel) text else messages.texts channel := by
  cases other <;> cases channel <;> rfl

theorem texts_merge (messages added : MessageSet) (channel : Channel) :
    (messages.merge added).texts channel =
      (added.texts channel).foldl insertText (messages.texts channel) := by
  rw [merge_eq]
  cases channel <;> rfl

section Additions

variable (channel : Channel)

mutual

/-- Each addition puts its texts behind those that are there already, new ones only. -/
theorem texts_after : ∀ (messages : MessageSet) (addition : Addition),
    (messages.after addition).texts channel =
      (addition.textsFor channel).foldl insertText (messages.texts channel)
  | messages, .single other text => by
      rw [after, texts_add, Addition.textsFor]
      split <;> rfl
  | messages, .set additions => by
      rw [after, texts_merge, texts_afterAll .empty additions, texts_empty,
        foldl_insertText_foldl, List.nil_append, Addition.textsFor]

theorem texts_afterAll : ∀ (messages : MessageSet) (additions : List Addition),
    (messages.afterAll additions).texts channel =
      (Addition.textsOfList channel additions).foldl insertText (messages.texts channel)
  | _, [] => by rw [afterAll, Addition.textsOfList, List.foldl_nil]
  | messages, addition :: additions => by
      rw [afterAll, texts_afterAll (messages.after addition) additions, texts_after messages addition,
        Addition.textsOfList, List.foldl_append]

end

theorem texts_afterAll_empty (additions : List Addition) :
    (empty.afterAll additions).texts channel =
      (Addition.textsOfList channel additions).eraseDups := by
  rw [texts_afterAll, texts_empty, foldl_insertText]

end Additions

section Merging

variable (messages added : MessageSet)

/-- How the texts of a set are grouped does not matter, nor does how the channels take turns. -/
theorem merge_eq_afterAll {additions : List Addition}
    (each : ∀ channel, Addition.textsOfList channel additions = added.texts channel) :
    messages.merge added = messages.afterAll additions := by
  apply texts_inj.mp
  intro channel
  rw [texts_merge, texts_afterAll, each]

theorem merge_merge_self : (messages.merge added).merge added = messages.merge added := by
  apply texts_inj.mp
  intro channel
  rw [texts_merge]
  apply foldl_insertText_of_mem
  intro text member
  rw [texts_merge, mem_foldl_insertText]
  exact .inr member

theorem merge_assoc (a b c : MessageSet) : (a.merge b).merge c = a.merge (b.merge c) := by
  apply texts_inj.mp
  intro channel
  rw [texts_merge, texts_merge, texts_merge, texts_merge, foldl_insertText_foldl, List.foldl_append]

theorem texts_foldl_merge (channel : Channel) (sets : List MessageSet) :
    (sets.foldl merge messages).texts channel =
      (sets.flatMap fun set => set.texts channel).foldl insertText (messages.texts channel) := by
  induction sets generalizing messages with
  | nil => rfl
  | cons set sets ih =>
      rw [List.foldl_cons, ih, texts_merge, List.flatMap_cons, List.foldl_append]

theorem texts_foldl_merge_empty (channel : Channel) (sets : List MessageSet) :
    (sets.foldl merge empty).texts channel =
      (sets.flatMap fun set => set.texts channel).eraseDups := by
  rw [texts_foldl_merge, texts_empty, foldl_insertText]

end Merging

end MessageSet

end IssueFilter
