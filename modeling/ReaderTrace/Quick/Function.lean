/-!
The quick functions: lookups that a reader provides so that an object file can
be searched before its symbol tables are expanded.
-/

namespace ReaderTrace

inductive QuickFunction
  | hasSymbols
  | canLazilyReadSymbols
  | findLastSourceSymtab
  | forgetCachedSourceInfo
  | lookupSymbol
  | findCompunitSymtabByAddress
  | mapSymtabsMatchingFilename
  | mapMatchingSymbols
  | expandSymtabsMatching
  | findPcSectCompunitSymtab
  | mapSymbolFilenames
  | lookupGlobalSymbolLanguage
  | expandAllSymtabs
  | expandSymtabsForFunction
  | expandSymtabsWithFullname
  | printStats
  | dump
deriving DecidableEq

namespace QuickFunction

def name : QuickFunction → String
  | .hasSymbols => "hasSymbols"
  | .canLazilyReadSymbols => "canLazilyReadSymbols"
  | .findLastSourceSymtab => "findLastSourceSymtab"
  | .forgetCachedSourceInfo => "forgetCachedSourceInfo"
  | .lookupSymbol => "lookupSymbol"
  | .findCompunitSymtabByAddress => "findCompunitSymtabByAddress"
  | .mapSymtabsMatchingFilename => "mapSymtabsMatchingFilename"
  | .mapMatchingSymbols => "mapMatchingSymbols"
  | .expandSymtabsMatching => "expandSymtabsMatching"
  | .findPcSectCompunitSymtab => "findPcSectCompunitSymtab"
  | .mapSymbolFilenames => "mapSymbolFilenames"
  | .lookupGlobalSymbolLanguage => "lookupGlobalSymbolLanguage"
  | .expandAllSymtabs => "expandAllSymtabs"
  | .expandSymtabsForFunction => "expandSymtabsForFunction"
  | .expandSymtabsWithFullname => "expandSymtabsWithFullname"
  | .printStats => "printStats"
  | .dump => "dump"

def all : List QuickFunction :=
  [.hasSymbols, .canLazilyReadSymbols, .findLastSourceSymtab, .forgetCachedSourceInfo,
    .lookupSymbol, .findCompunitSymtabByAddress, .mapSymtabsMatchingFilename,
    .mapMatchingSymbols, .expandSymtabsMatching, .findPcSectCompunitSymtab,
    .mapSymbolFilenames, .lookupGlobalSymbolLanguage, .expandAllSymtabs,
    .expandSymtabsForFunction, .expandSymtabsWithFullname, .printStats, .dump]

end QuickFunction

end ReaderTrace
