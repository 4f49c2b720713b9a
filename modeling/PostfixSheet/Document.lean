import PostfixSheet.Delimited.Sheet
import PostfixSheet.Sheet.Passes
import PostfixSheet.Files.FileSystem

/-! Documents: a sheet, the file that it was loaded from, and the order of its
last evaluation. Loading replaces all three or, if it fails, nothing. Evaluation
starts from the expressions alone, so a second evaluation gives what the first
one gave. -/
namespace PostfixSheet

structure Document where
  sheet : Sheet := ⟨#[]⟩
  path : Option String := none
  order : List Address := []
deriving DecidableEq

structure Summary where
  cells : Nat
  errors : Nat
deriving DecidableEq, Repr

def Summary.text (summary : Summary) : String :=
  "cells=" ++ toString summary.cells ++ " errors=" ++ toString summary.errors

namespace Document

/-- Greater files are refused unread. -/
def sizeLimit : Nat := 64 * 1024 * 1024

def ofText (delimiter : Char) (text : String) : Document := { sheet := .ofText delimiter text }

def ofFile (files : FileSystem) (path : String) (delimiter : Char) :
    Except StorageFault Document := do
  return { ofText delimiter (← files.readText sizeLimit path) with path := some path }

/-- Loads a file in place of the document, which stays as it is on a fault. -/
def loadFile (document : Document) (files : FileSystem) (path : String) (delimiter : Char) :
    Document × Option StorageFault :=
  match ofFile files path delimiter with
  | .ok loaded => (loaded, none)
  | .error fault => (document, some fault)

def evaluate (document : Document) : Document × Summary :=
  let (analyzed, completion) := document.sheet.reset.analyze
  let order := analyzed.schedule completion
  let (sheet, errors) := analyzed.evaluate order
  ({ document with sheet, order }, ⟨order.length, errors⟩)

/-- There are cells, and each has a value. -/
def isEvaluated (document : Document) : Bool :=
  document.sheet.size != 0 && document.sheet.toList.all (·.value.isSome)

/-- The text of one cell; empty where there is no cell or no value. -/
def display (document : Document) (address : Address) (marker : String) : String :=
  ((document.sheet.valueAt? address).map (Value.display marker)).getD ""

def render (document : Document) (format : Format) : String := document.sheet.render format

def writeFile (document : Document) (files : FileSystem) (path : String) (format : Format) :
    Except StorageFault FileSystem :=
  files.writeText path (document.render format)

end Document

end PostfixSheet
