import SqlTemplate.Text.LetterCase
import SqlTemplate.Unicode.Clusters

/-!
# Words of an identifier

An identifier is taken apart into words: at blanks, hyphens and underscores, which vanish, where a
small letter is followed by a capital one, before the last of several capitals that a small letter
follows, and between letters and digits. A letter is a cluster whose upper and lower case differ.
-/

namespace SqlTemplate.Text

open SqlTemplate.Unicode (clusters)

/-- A character with the marks that belong to it. -/
abbrev Cluster := List Char

/-- Whether a cluster has two cases and is in the upper one. -/
def isUpperCluster (g : Cluster) : Bool :=
  upper g != lower g && g == upper g

/-- Whether a cluster has two cases and is in the lower one. -/
def isLowerCluster (g : Cluster) : Bool :=
  upper g != lower g && g == lower g

/-- Whether a cluster is a letter in one of two cases. -/
def isLetterCluster (g : Cluster) : Bool :=
  isUpperCluster g || isLowerCluster g

/-- Whether a cluster is an ASCII digit. -/
def isDigitCluster (g : Cluster) : Bool :=
  g.all Char.isDigit

/-- Whether a cluster stands between words. -/
def isSeparator (g : Cluster) : Bool :=
  g == [' '] || g == ['-'] || g == ['_']

/-- Whether a word ends after the cluster `g`, `rest` being what follows. -/
def endsWord (g : Cluster) (rest : List Cluster) : Bool :=
  match rest with
  | [] => false
  | h :: rest =>
    (isLowerCluster g && isUpperCluster h) ||
      (isUpperCluster g && isUpperCluster h && rest.head?.any isLowerCluster) ||
      (isLetterCluster g && isDigitCluster h) || (isDigitCluster g && isLetterCluster h)

/-- The words of a sequence of clusters, some of them possibly empty; `word` is what the first of
them begins with. -/
def splitWords (word : List Cluster) : List Cluster → List (List Cluster)
  | [] => [word]
  | g :: rest =>
    if isSeparator g then word :: splitWords [] rest
    else if endsWord g rest then (word ++ [g]) :: splitWords [] rest
    else splitWords (word ++ [g]) rest

/-- The words of an identifier. -/
def words (s : String) : List (List Cluster) :=
  (splitWords [] (clusters s.toList)).filter (!·.isEmpty)

/-- A word in lower case. -/
def lowerWord (word : List Cluster) : List Char :=
  lower word.flatten

/-- A word in upper case. -/
def upperWord (word : List Cluster) : List Char :=
  upper word.flatten

/-- A word that begins with a capital. -/
def capitalWord : List Cluster → List Char
  | [] => []
  | g :: rest => upper g ++ lower rest.flatten

end SqlTemplate.Text
