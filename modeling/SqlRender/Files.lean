/-!
# Files

The files that a program can read, as a function from paths to contents.
-/

namespace SqlRender

/-- The contents of the files that can be read, by path. -/
abbrev Files := String → Option ByteArray

/-- The text of a file that can be read and holds UTF-8. -/
def Files.text? (files : Files) (path : String) : Option String :=
  (files path).bind String.fromUTF8?

end SqlRender
