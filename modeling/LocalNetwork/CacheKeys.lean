/-
This file is about the keys of the proxy's cache. The upper-cased method, the path and a line
for each header that a response varies with are joined with bars, and the key is the SHA-256
of the joined text.

A bar inside one of the texts is not told from one between them. Two requests therefore share
a key exactly if they give the same pieces between bars, and keys separate two requests
exactly if the same pieces imply as many bars in each of their texts.

SHA-256 is a parameter, which is only assumed to be injective.
-/

import LocalNetwork.RankOrder
import LocalNetwork.Dict
import LocalNetwork.Text
import Mathlib.Data.Char
import Mathlib.Data.List.Lex

namespace LocalNetwork

/-- A line `name:value` for each header, in the order of the names. -/
def varyLines (varyHeaders : Dict Text Text) : List Text :=
  (byRank Prod.fst varyHeaders.entries).map fun (name, value) => name ++ ':' :: value

/-- `get_cache_key`. -/
def getCacheKey {Digest : Type} (unicode : UnicodeData) (sha256 : Bytes → Digest)
    (method path : Text) (varyHeaders : Option (Dict Text Text)) : Digest :=
  let lines :=
    match varyHeaders with
    | none => []
    | some varyHeaders => varyLines varyHeaders
  sha256 (encodeText (['|'].intercalate ([upperText unicode method, path] ++ lines)))

/-- What a key is made from. -/
structure CacheRequest where
  method : Text
  path : Text
  varyHeaders : Option (Dict Text Text)

namespace CacheRequest

def cacheKey {Digest : Type} (unicode : UnicodeData) (sha256 : Bytes → Digest)
    (request : CacheRequest) : Digest :=
  getCacheKey unicode sha256 request.method request.path request.varyHeaders

/-- The headers; no dictionary is as good as an empty one. -/
def headers (request : CacheRequest) : Dict Text Text := request.varyHeaders.getD Dict.empty

/-- No header name holds a colon. -/
def WellNamed (request : CacheRequest) : Prop := ∀ name ∈ request.headers.keys, ':' ∉ name

/-- The methods agree but for their case, and the paths and the dictionaries are equal. -/
structure Agree (unicode : UnicodeData) (first second : CacheRequest) : Prop where
  method : upperText unicode first.method = upperText unicode second.method
  path : first.path = second.path
  headers : ∀ name, first.headers.get? name = second.headers.get? name

/-- The texts of a request: its method in upper case, its path and its header lines. -/
def texts (unicode : UnicodeData) (request : CacheRequest) : List Text :=
  upperText unicode request.method :: request.path :: varyLines request.headers

/-- What stands between the bars, over all texts of a request. -/
def pieces (unicode : UnicodeData) (request : CacheRequest) : List Text :=
  (request.texts unicode).flatMap (splitOn ['|'])

/-- The number of bars in each text of a request. -/
def barCounts (unicode : UnicodeData) (request : CacheRequest) : List Nat :=
  (request.texts unicode).map (List.count '|')

/-! ### What a key determines -/

variable {Digest : Type} {unicode : UnicodeData} {sha256 : Bytes → Digest}
  {first second : CacheRequest}

theorem cacheKey_eq (unicode : UnicodeData) (sha256 : Bytes → Digest) (request : CacheRequest) :
    request.cacheKey unicode sha256 =
      sha256 (encodeText (['|'].intercalate (request.texts unicode))) := by
  unfold cacheKey getCacheKey texts headers
  cases request.varyHeaders <;> rfl

/-- The joined texts come apart at every bar. -/
theorem splitOn_texts (unicode : UnicodeData) (request : CacheRequest) :
    splitOn ['|'] (['|'].intercalate (request.texts unicode)) = request.pieces unicode :=
  splitOn_intercalate_symbol _ _

theorem encodeText_injective : Function.Injective encodeText := fun first second same => by
  rw [← decodeText_encodeText first, same, decodeText_encodeText]

/-- A key determines the pieces of a request, and no more. -/
theorem cacheKey_eq_iff (injective : Function.Injective sha256) :
    first.cacheKey unicode sha256 = second.cacheKey unicode sha256 ↔
      first.pieces unicode = second.pieces unicode := by
  rw [cacheKey_eq, cacheKey_eq, injective.eq_iff, encodeText_injective.eq_iff, ← splitOn_texts,
    ← splitOn_texts]
  refine ⟨congrArg (splitOn ['|']), fun same => ?_⟩
  have joined := congrArg ['|'].intercalate same
  rwa [splitOn, splitOn, intercalate_splitAtMost, intercalate_splitAtMost] at joined

/-! ### What the texts determine -/

/-- The lines determine the headers, if no name holds a colon. -/
theorem varyLines_eq_iff {headers others : Dict Text Text}
    (named : ∀ name ∈ headers.keys, ':' ∉ name) (otherNamed : ∀ name ∈ others.keys, ':' ∉ name) :
    varyLines headers = varyLines others ↔ ∀ name, headers.get? name = others.get? name := by
  rw [Dict.get?_eq_iff_perm]
  constructor
  · intro same
    -- A line is cut at its first colon.
    have cut : ∀ dict : Dict Text Text, (∀ name ∈ dict.keys, ':' ∉ name) →
        (varyLines dict).map (cutAt [':']) = (byRank Prod.fst dict.entries).map some := by
      intro dict dictNamed
      rw [varyLines, List.map_map]
      refine List.map_congr_left fun entry member => ?_
      exact cutAt_symbol _ (dictNamed entry.1 (List.mem_map_of_mem (mem_byRank.mp member)))
    have lines := congrArg (List.map (cutAt [':'])) same
    rw [cut headers named, cut others otherNamed] at lines
    have sorted := List.map_injective_iff.mpr (Option.some_injective _) lines
    have perm : (byRank Prod.fst headers.entries).Perm headers.entries := byRank_perm _
    rw [sorted] at perm
    exact perm.symm.trans (byRank_perm _)
  · intro perm
    have distinct : Set.InjOn Prod.fst {entry | entry ∈ headers.entries} := by
      intro entry member other otherMember same
      exact List.inj_on_of_nodup_map headers.distinct member otherMember same
    rw [varyLines, varyLines, byRank_eq_of_perm perm distinct]

/-- Requests agree if and only if they give the same texts. -/
theorem agree_iff (firstNamed : first.WellNamed) (secondNamed : second.WellNamed) :
    Agree unicode first second ↔ first.texts unicode = second.texts unicode := by
  rw [texts, texts, List.cons.injEq, List.cons.injEq, varyLines_eq_iff firstNamed secondNamed]
  exact ⟨fun ⟨method, path, headers⟩ => ⟨method, path, headers⟩,
    fun ⟨method, path, headers⟩ => ⟨method, path, headers⟩⟩

/-! ### The theorem -/

/-- The key separates two requests if and only if equally many bars are in each of their texts
whenever they give the same pieces. -/
theorem cacheKey_separates_iff (injective : Function.Injective sha256)
    (firstNamed : first.WellNamed) (secondNamed : second.WellNamed) :
    (first.cacheKey unicode sha256 = second.cacheKey unicode sha256 →
        Agree unicode first second) ↔
      (first.pieces unicode = second.pieces unicode →
        first.barCounts unicode = second.barCounts unicode) := by
  rw [cacheKey_eq_iff injective, agree_iff firstNamed secondNamed]
  constructor
  · intro separates pieces
    rw [barCounts, separates pieces]
    rfl
  · exact fun bars pieces => eq_of_pieces pieces (bars pieces)

/-- Where no text holds a bar the pieces are the texts. -/
theorem pieces_eq_texts {request : CacheRequest}
    (noBars : ∀ text ∈ request.texts unicode, '|' ∉ text) :
    request.pieces unicode = request.texts unicode := by
  rw [pieces, ← List.flatMap_singleton' (request.texts unicode), List.flatMap_assoc]
  refine List.flatMap_congr fun text member => ?_
  rw [List.flatMap_singleton, splitOn_of_not_mem (noBars text member)]

/-- Requests without bars that share a key agree. -/
theorem agree_of_cacheKey (injective : Function.Injective sha256)
    (firstNamed : first.WellNamed) (secondNamed : second.WellNamed)
    (firstNoBars : ∀ text ∈ first.texts unicode, '|' ∉ text)
    (secondNoBars : ∀ text ∈ second.texts unicode, '|' ∉ text)
    (same : first.cacheKey unicode sha256 = second.cacheKey unicode sha256) :
    Agree unicode first second := by
  rw [cacheKey_eq_iff injective, pieces_eq_texts firstNoBars, pieces_eq_texts secondNoBars] at same
  exact (agree_iff firstNamed secondNamed).mpr same

end CacheRequest

/-! ### A bar in a path -/

def barInPath : CacheRequest := ⟨"GET".toList, "/a|x:1".toList, none⟩

def barBetween : CacheRequest :=
  ⟨"GET".toList, "/a".toList, some (Dict.ofEntries [("x".toList, "1".toList)])⟩

theorem barInPath_wellNamed : barInPath.WellNamed := nofun

theorem barBetween_wellNamed : barBetween.WellNamed := by
  unfold CacheRequest.WellNamed
  decide

/-- The two requests, with the text itself in the place of its digest. -/
theorem cacheKey_separates_iff_bar :
    (barInPath.cacheKey plainUnicode id = barBetween.cacheKey plainUnicode id →
        CacheRequest.Agree plainUnicode barInPath barBetween) ↔
      (barInPath.pieces plainUnicode = barBetween.pieces plainUnicode →
        barInPath.barCounts plainUnicode = barBetween.barCounts plainUnicode) :=
  CacheRequest.cacheKey_separates_iff Function.injective_id barInPath_wellNamed barBetween_wellNamed

/-- The path of one request holds the header of the other, and they share a key. -/
theorem cacheKey_counterexample :
    Function.Injective (id : Bytes → Bytes) ∧ barInPath.WellNamed ∧ barBetween.WellNamed ∧
      barInPath.cacheKey plainUnicode id = barBetween.cacheKey plainUnicode id ∧
        ¬ CacheRequest.Agree plainUnicode barInPath barBetween := by
  refine ⟨Function.injective_id, barInPath_wellNamed, barBetween_wellNamed, by decide, ?_⟩
  intro agree
  exact absurd agree.path (by decide)

end LocalNetwork
