/-!
The last component of a slash-separated path.

Slashes at the end do not count, so a path of slashes alone has the empty last
component. Nothing here consults a file system.
-/

namespace ReaderTrace.BaseName

def chars (path : List Char) : List Char :=
  ((path.reverse.dropWhile (· == '/')).takeWhile (· != '/')).reverse

/-- The last component of `path`: `libfoo.so` for `/usr/lib/libfoo.so`. -/
def ofPath (path : String) : String :=
  String.ofList (chars path.toList)

end ReaderTrace.BaseName
