import JooEvents.Lib.SortedKeys
import JooEvents.Lib.Spaced
import JooEvents.Triage.Model
import Mathlib.Data.Prod.Lex

/-!
# Search

An organizer searches the rows of triage by words and by quoted phrases. Texts are folded to the
letters `a` to `z` and digits, with one space between words, character by character; a query is
split on quotes and white space before it is folded. A word may match anywhere, a phrase only whole
words, and a row is ranked by its best hit.

Normalization (`nfkd`) and lower case (`toLocaleLowerCase`) are given for each character.
-/

namespace JooEvents

/-- `ATOMIC_FOLDS`. -/
def atomicFolds : List (Char × List Char) :=
  [('ø', ['o']), ('Ø', ['o']), ('ı', ['i']), ('İ', ['i']), ('ł', ['l']), ('Ł', ['l']),
    ('đ', ['d']), ('Đ', ['d']), ('ð', ['d']), ('Ð', ['d']), ('þ', ['t', 'h']), ('Þ', ['t', 'h']),
    ('ß', ['s', 's']), ('ẞ', ['s', 's']), ('æ', ['a', 'e']), ('Æ', ['a', 'e']),
    ('œ', ['o', 'e']), ('Œ', ['o', 'e']), ('ŋ', ['n']), ('Ŋ', ['n']), ('ħ', ['h']), ('Ħ', ['h']),
    ('ŧ', ['t']), ('Ŧ', ['t']), ('ĸ', ['k']), ('ſ', ['s'])]

/-- The class `[\u0300-\u036f]`. -/
def isCombiningMark (c : Char) : Bool := decide (0x300 ≤ c.val.toNat ∧ c.val.toNat ≤ 0x36F)

/-- The class `[a-z0-9]`. -/
def isFoldedChar (c : Char) : Bool := isLowerChar c || isDigitChar c

section

variable (nfkd toLocaleLowerCase : Char → List Char)

/-- What a character is folded to, before separators are joined. -/
def foldSearchChar (char : Char) : List Char :=
  let expanded := ((atomicFolds.find? fun fold => fold.1 = char).map Prod.snd).getD
    ((nfkd char).filter fun c => !isCombiningMark c)
  expanded.flatMap toLocaleLowerCase

def foldSubmissionTriageSearchText (value : List Char) : List Char :=
  (value.foldl (fun state char =>
    (foldSearchChar nfkd toLocaleLowerCase char).foldl (spacedStep isFoldedChar ' ') state)
    ([], false)).1

end

/-- A part of a query : a quoted text, or what stands between white space. -/
structure SearchToken where
  text : List Char
  phrase : Bool

/-- Where a query is read : outside, or in a token that began. -/
inductive SearchScan where
  | outside
  | bare (text : List Char)
  | quoted (text : List Char)

/-- The matches of `/"([^"]*)"?|(\S+)/gu`. -/
def searchTokens : SearchScan → List Char → List SearchToken
  | .outside, [] => []
  | .bare text, [] => [⟨text, false⟩]
  | .quoted text, [] => [⟨text, true⟩]
  | .outside, c :: cs =>
    if c = '"' then searchTokens (.quoted []) cs
    else if isWhiteSpace c then searchTokens .outside cs
    else searchTokens (.bare [c]) cs
  | .bare text, c :: cs =>
    if isWhiteSpace c then ⟨text, false⟩ :: searchTokens .outside cs
    else searchTokens (.bare (text ++ [c])) cs
  | .quoted text, c :: cs =>
    if c = '"' then ⟨text, true⟩ :: searchTokens .outside cs
    else searchTokens (.quoted (text ++ [c])) cs

structure SubmissionTriageSearchTerm where
  folded : List Char
  phrase : Bool
  deriving DecidableEq

structure SubmissionTriageParsedSearch where
  raw : String
  terms : List SubmissionTriageSearchTerm

section

variable (nfkd toLocaleLowerCase : Char → List Char)

/-- The terms with one more, unless it folds to nothing or was seen. -/
def addSearchTerm (terms : List SubmissionTriageSearchTerm) (token : SearchToken) :
    List SubmissionTriageSearchTerm :=
  let folded := foldSubmissionTriageSearchText nfkd toLocaleLowerCase token.text
  if folded = [] then terms
  else if ⟨folded, token.phrase⟩ ∈ terms then terms
  else terms ++ [⟨folded, token.phrase⟩]

def parseSubmissionTriageSearch (raw : String) : SubmissionTriageParsedSearch :=
  { raw, terms := (searchTokens .outside raw.toList).foldl
      (addSearchTerm nfkd toLocaleLowerCase) [] }

end

/-- What is read of a row of triage. -/
structure SubmissionTriageProjection where
  id : ApplicationId
  title : Option String
  abstract : Option String
  primaryParticipantName : Option String
  trackId : Option ApplicationId
  formatId : Option ApplicationId
  visibleTray : SubmissionTriageVisibleTray
  deriving DecidableEq

/-- A text of a row, and its weight. -/
structure SearchField where
  text : List Char
  weight : ℕ

def searchFields (row : SubmissionTriageProjection) : List SearchField :=
  [⟨(row.title.getD "").toList, 0⟩, ⟨(row.abstract.getD "").toList, 1⟩,
    ⟨(row.primaryParticipantName.getD "").toList, 0⟩]

/-- The ranks of the hits of a term in a folded text, from every place where it stands. -/
def hitRanks (folded : List Char) (weight : ℕ) (term : SubmissionTriageSearchTerm) : List ℕ :=
  let starts := (List.range folded.length).filter fun start =>
    term.folded.isPrefixOf (folded.drop start)
  starts.filterMap fun start =>
    let finish := start + term.folded.length
    let startsWord := decide (start = 0 ∨ folded[start - 1]? = some ' ')
    let endsWord := decide (finish = folded.length ∨ folded[finish]? = some ' ')
    if !term.phrase || (startsWord && endsWord) then
      some (if startsWord then weight else weight + 2)
    else none

section

variable (nfkd toLocaleLowerCase : Char → List Char)

def termRanks (row : SubmissionTriageProjection) (term : SubmissionTriageSearchTerm) : List ℕ :=
  (searchFields row).flatMap fun field =>
    hitRanks (foldSubmissionTriageSearchText nfkd toLocaleLowerCase field.text) field.weight term

/-- The best rank of a row, if every term has a hit. -/
def matchSubmissionTriageProjection (row : SubmissionTriageProjection)
    (query : SubmissionTriageParsedSearch) : Option ℕ :=
  if query.terms = [] then none
  else if ∀ term ∈ query.terms, termRanks nfkd toLocaleLowerCase row term ≠ [] then
    (query.terms.flatMap (termRanks nfkd toLocaleLowerCase row)).min?
  else none

structure SubmissionTriageListInput where
  tray : Option SubmissionTriageVisibleTray
  trackId : Option ApplicationId
  formatId : Option ApplicationId
  search : Option String

structure SubmissionTriageSearchOutcome where
  query : String
  matched : ℕ
  scanned : ℕ

structure SubmissionTriageTrayTotals where
  inbox : ℕ
  setAside : ℕ
  late : ℕ
  spam : ℕ

structure SubmissionTriageList where
  rows : List SubmissionTriageProjection
  trayTotals : SubmissionTriageTrayTotals
  search : Option SubmissionTriageSearchOutcome

/-- The rows that a search finds, by rank and then by id; all in their order if there is no
term. -/
def matchedRows (scopedRows : List SubmissionTriageProjection) (search : String) :
    List SubmissionTriageProjection :=
  let parsedSearch := parseSubmissionTriageSearch nfkd toLocaleLowerCase search
  if parsedSearch.terms = [] then scopedRows
  else
    ((scopedRows.filterMap fun row =>
      (matchSubmissionTriageProjection nfkd toLocaleLowerCase row parsedSearch).map
        fun rank => (rank, row)).sortByKey
      fun entry => toLex (entry.1, codeUnits entry.2.id.val)).map Prod.snd

def projectSubmissionTriageList (rows : List SubmissionTriageProjection)
    (query : SubmissionTriageListInput) : SubmissionTriageList :=
  let trayCount := fun tray => rows.countP fun row => row.visibleTray = tray
  let scopedRows := rows.filter fun row =>
    (∀ tray ∈ query.tray, row.visibleTray = tray) ∧
      (∀ trackId ∈ query.trackId, row.trackId = some trackId) ∧
      ∀ formatId ∈ query.formatId, row.formatId = some formatId
  let parsedSearch :=
    parseSubmissionTriageSearch nfkd toLocaleLowerCase (query.search.getD "")
  let matched := matchedRows nfkd toLocaleLowerCase scopedRows (query.search.getD "")
  { rows := matched.take 500
    trayTotals :=
      { inbox := trayCount .inbox, setAside := trayCount .setAside, late := trayCount .late
        spam := trayCount .spam }
    search := if parsedSearch.terms = [] then none
      else some
        { query := query.search.getD "", matched := matched.length, scanned := scopedRows.length } }

end

end JooEvents
