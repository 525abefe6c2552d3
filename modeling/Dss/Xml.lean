import Mathlib.Data.List.Basic

/-!
# Documents and their handlers

What a parser that reports events makes of a document: a start for each element, its content, an
end, and the text in between, which may be reported in pieces.
-/

namespace Xml

abbrev Attributes : Type := List (String × String)

def Attributes.value? (attributes : Attributes) (key : String) : Option String :=
  (attributes.reverse.find? fun a => a.1 = key).map Prod.snd

inductive Content : Type where
  /-- the end -/
  | nil : Content
  | text : (text : String) → (rest : Content) → Content
  | element : (name : String) → (attributes : Attributes) → (content rest : Content) → Content

structure Document : Type where
  name : String
  attributes : Attributes
  content : Content

namespace Content

def keep (p : String → Bool) : Content → Content
  | nil => nil
  | text t rest => text t (rest.keep p)
  | element name attributes content rest =>
    if p name then element name attributes (content.keep p) (rest.keep p) else rest.keep p

def directText : Content → String
  | nil => ""
  | text t rest => t ++ rest.directText
  | element _ _ _ rest => rest.directText

def hasElement (p : String → Bool) : Content → Bool
  | nil => false
  | text _ rest => rest.hasElement p
  | element name _ _ rest => p name || rest.hasElement p

def countElements (p : String → Bool) : Content → ℕ
  | nil => 0
  | text _ rest => rest.countElements p
  | element name _ _ rest => (if p name then 1 else 0) + rest.countElements p

variable {p : String → Bool} {t name : String} {attributes : Attributes} {content rest : Content}

theorem keep_text : (text t rest).keep p = text t (rest.keep p) := rfl

theorem keep_element : (element name attributes content rest).keep p =
    if p name then element name attributes (content.keep p) (rest.keep p) else rest.keep p := rfl

theorem directText_text : (text t rest).directText = t ++ rest.directText := rfl

theorem directText_element : (element name attributes content rest).directText =
    rest.directText := rfl

theorem hasElement_element : (element name attributes content rest).hasElement p =
    (p name || rest.hasElement p) := rfl

end Content

/-! ## Handlers -/

/-- The callbacks of a parser. -/
structure Handler (S : Type) : Type where
  elementStart : String → Attributes → S → S
  elementEnd : String → S → S
  characterData : String → S → S

namespace Handler

variable {S : Type}

def feed (h : Handler S) : Content → S → S
  | .nil, s => s
  | .text t rest, s => h.feed rest (h.characterData t s)
  | .element name attributes content rest, s =>
    h.feed rest (h.elementEnd name (h.feed content (h.elementStart name attributes s)))

def parse (h : Handler S) (document : Document) (s : S) : S :=
  h.elementEnd document.name
    (h.feed document.content (h.elementStart document.name document.attributes s))

theorem feed_of_fixed {h : Handler S} {s : S} (hstart : ∀ name attributes,
    h.elementStart name attributes s = s) (hend : ∀ name, h.elementEnd name s = s)
    (htext : ∀ t, h.characterData t s = s) (content : Content) : h.feed content s = s := by
  induction content with
  | nil => rfl
  | text t rest ih => rw [feed, htext, ih]
  | element name attributes content rest ihcontent ihrest =>
    rw [feed, hstart, ihcontent, hend, ihrest]

end Handler

end Xml
