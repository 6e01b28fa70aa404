/-!
# Canonical combining classes

Each entry starts a run of characters: the distance from the start of the last run in base 36, a
colon, and the combining class in base 36.
-/

namespace WebCrawl.Unicode

def combiningRuns : List String := [
    "0:0 lc:6e l:6g 1:64 4:6g 1:60 1:64 5:5m 2:64 4:5m 2:64 b:1 5:64 4:6e 8:6o 1:6e 1:64 3:6e",
    "3:64 2:0 1:6e 3:64 4:6e 1:6g 1:64 2:6e 1:6h 1:6i 2:6h 1:6i 2:6h 1:6e d:0 7n:6e 5:0 7d:64",
    "1:6e 4:64 1:6e 3:66 1:64 1:6e 6:64 6:6e 2:64 1:6e 2:66 1:6c 1:6e 1:a 1:b 1:c 1:d 1:e 1:f 1:g",
    "1:h 1:i 1:j 2:k 1:l 1:m 1:0 1:n 1:0 1:o 1:p 1:0 1:6e 1:64 1:0 1:i 1:0 20:6e 8:u 1:v 1:w 1:0",
    "1c:r 1:s 1:t 1:u 1:v 1:w 1:x 1:y 1:6e 2:64 2:6e 5:64 1:6e 2:64 1:0 g:z 1:0 2t:6e 7:0 2:6e",
    "4:64 1:6e 1:0 2:6e 2:0 1:64 1:6e 2:64 1:0 z:10 1:0 u:6e 1:64 1:6e 2:64 1:6e 2:64 3:6e 1:64",
    "2:6e 1:64 1:6e 3:64 1:6e 1:64 1:6e 1:64 1:6e 1:64 1:6e 2:0 4g:6e 7:64 1:6e 1:0 9:64 1:0 o:6e",
    "4:0 1:6e 9:0 1:6e 3:0 1:6e 5:0 17:64 3:0 1n:6e 2:64 3:6e 4:0 16:6e 5:64 5:6e e:0 1:64 1:6e",
    "2:64 1:6e 2:64 1:6e 3:64 3:r 1:s 1:t 1:6e 3:64 1:6e 2:64 2:6e 5:0 1o:7 1:0 g:9 1:0 3:6e 1:64",
    "1:6e 2:0 2v:7 1:0 g:9 1:0 1c:6e 1:0 1p:7 1:0 g:9 1:0 32:7 1:0 g:9 1:0 32:7 1:0 g:9 1:0 3j:9",
    "1:0 32:7 1:0 g:9 1:0 7:2c 1:2j 1:0 2t:7 1:0 g:9 1:0 31:9 2:0 g:9 1:0 3g:9 1:0 31:2v 2:9 1:0",
    "d:2z 4:0 30:3a 2:9 1:0 d:3e 4:0 24:64 2:0 r:64 1:0 1:64 1:0 1:60 1:0 1j:3l 1:3m 1:0 1:3o 1:0",
    "5:3m 4:0 2:3m 1:0 1:6e 2:9 1:0 1:6e 2:0 1q:64 1:0 34:7 1:0 1:9 2:0 2a:64 1:0 jz:6e 3:0 qc:9",
    "2:0 u:9 1:0 4d:9 1:0 a:6e 1:0 5n:6c 1:0 3z:66 1:6e 1:64 1:0 63:6e 1:64 1:0 1z:9 1:0 k:6e 8:0",
    "2:64 1:0 1c:6e 5:64 6:6e 2:64 1:0 1:64 2:6e 2:64 2:6e 5:64 1:6e i:64 1:0 2:6e 6:64 1:6e 4:6i",
    "1:0 20:7 1:0 f:9 1:0 12:6e 1:64 1:6e 7:0 1i:9 2:0 1m:7 1:0 b:9 2:0 1v:7 1:0 48:6e 3:0 1:1",
    "1:64 5:6e 2:64 4:6e 1:0 1:1 7:0 4:64 1:0 6:6e 1:0 3:6e 2:0 5i:6e 2:64 1:6e 7:64 1:6e 2:6i",
    "1:5y 1:64 1:5m 1:6e 11:6g 1:6c 2:64 1:62 1:6e 1:6h 1:64 1:6e 1:64 1:0 k0:6e 2:1 2:6e 4:1",
    "3:6e 2:0 4:6e 1:0 3:1 2:6e 1:64 1:6e 1:1 2:64 4:6e 1:0 2da:6e 3:0 3x:9 1:0 2o:6e w:0 fe:62",
    "1:6c 1:6g 1:66 1:68 2:0 2x:8 2:0 n9w:6e 1:0 4:6e a:0 w:6e 2:0 28:6e 2:0 7o:9 1:0 11:9 1:0",
    "47:9 1:0 r:6e i:0 1l:64 3:0 11:9 1:0 2n:7 1:0 c:9 1:0 6n:6e 1:0 1:6e 2:64 1:0 2:6e 2:0 5:6e",
    "2:0 1:6e 1:0 1g:9 1:0 6u:9 1:0 fn4:q 1:0 ld:6e 7:64 7:6e 2:0 r1:64 1:0 6a:64 1:0 45:6e 5:0",
    "1aq:64 1:0 1:6e 1:0 14:6e 1:1 1:64 1:0 4:9 1:0 4l:6e 1:64 1:0 fx:6e 4:0 1t:6e 5:0 8t:6e 2:0",
    "25:64 2:0 1:64 3:0 1y:64 2:6e 3:64 1:6e 1:64 4:0 1d:6e 1:64 1:6e 1:64 1:0 5c:9 1:0 15:9 1:0",
    "e:9 1:0 1l:9 1:7 1:0 1x:6e 3:0 1c:9 2:0 1q:7 1:0 24:9 1:0 9:7 1:0 2y:9 1:7 1:0 4y:7 1:9 1:0",
    "28:7 2:0 g:9 1:0 o:6e 7:0 3:6e 5:0 2h:9 3:0 35:9 1:0 3:7 1:0 n:6e 1:0 2r:9 1:7 1:0 6z:9 1:7",
    "1:0 3i:9 1:0 3a:9 1:7 1:0 37:9 1:0 7h:9 1:7 1:0 76:9 2:0 4:7 1:0 4c:9 1:0 2b:9 1:0 i:9 1:0",
    "29:9 1:0 bp:9 1:0 76:7 1:0 1:9 2:0 29:9 1:0 bt:9 2:0 d0s:9 1:0 1xc:1 5:0 1n:6e 7:0 xl:6 2:0",
    "f58:1 1:0 43q:60 2:1 3:0 3:6a 1:60 5:0 8:64 8:0 2:6e 5:64 2:0 u:6e 4:0 44:6e 3:0 2pn:6e 7:0",
    "1:6e h:0 2:6e 7:0 1:6e 2:0 1:6e 5:0 2s:6e 1:0 4g:6e 7:0 af:6e 1:0 1p:6e 4:0 e4:6g 2:64 1:6e",
    "1:0 72:6e 1:64 1:0 6r:6e 1:0 2:6e 1:0 7:6e 2:0 5:6e 1:0 d6:64 7:0 31:6e 6:7 1:0"]

end WebCrawl.Unicode
