import CriticalCss.Text.Packed
import CriticalCss.Text.Unicode.Runs
/-!
# General categories

Every code point has one general category of Unicode 17.0, unassigned code
points the category `Cn`. The classes built on them follow the usual
groupings: letters are the categories starting with `L`, decimal digits are
`Nd`, graphic characters are letters, marks, numbers, punctuation, symbols
and space separators, and printable characters are the same with the plain
space as the only separator.

## Main definitions

* `GeneralCategory`: the thirty categories, with their two-letter codes.
* `generalCategory`: the category of a character.
* `isLetter`, `isDecimalDigit`, `isGraphic`, `isPrintable`: classes of
  characters.
-/

namespace CriticalCss.Text

/-- The general categories. -/
inductive GeneralCategory where
  | lu | ll | lt | lm | lo
  | mn | mc | me
  | nd | nl | no
  | pc | pd | ps | pe | pi | pf | po
  | sm | sc | sk | so
  | zs | zl | zp
  | cc | cf | cs | co | cn
  deriving DecidableEq, Repr, Inhabited

/-- All categories, in the order of their codes' groups. -/
def GeneralCategory.all : List GeneralCategory :=
  [.lu, .ll, .lt, .lm, .lo, .mn, .mc, .me, .nd, .nl, .no, .pc, .pd, .ps, .pe, .pi, .pf, .po,
   .sm, .sc, .sk, .so, .zs, .zl, .zp, .cc, .cf, .cs, .co, .cn]

/-- The two-letter code of a category. -/
def GeneralCategory.code : GeneralCategory → String
  | .lu => "Lu" | .ll => "Ll" | .lt => "Lt" | .lm => "Lm" | .lo => "Lo"
  | .mn => "Mn" | .mc => "Mc" | .me => "Me"
  | .nd => "Nd" | .nl => "Nl" | .no => "No"
  | .pc => "Pc" | .pd => "Pd" | .ps => "Ps" | .pe => "Pe" | .pi => "Pi" | .pf => "Pf" | .po => "Po"
  | .sm => "Sm" | .sc => "Sc" | .sk => "Sk" | .so => "So"
  | .zs => "Zs" | .zl => "Zl" | .zp => "Zp"
  | .cc => "Cc" | .cf => "Cf" | .cs => "Cs" | .co => "Co" | .cn => "Cn"

/-- The category with a two-letter code. -/
def GeneralCategory.ofCode? (code : String) : Option GeneralCategory :=
  GeneralCategory.all.find? (·.code == code)

/-- The letter of a category's group: `L`, `M`, `N`, `P`, `S`, `Z` or `C`. -/
def GeneralCategory.group (g : GeneralCategory) : Char :=
  g.code.front

/-- The categories of the code points of Unicode 17.0, as a run table, stored with
distances between starts, packed and range coded. -/
def categoryText : String :=
  undeltaRuns (unpack (unrange 7581 (String.join [
    "C, ^T2MhB>bv(q6T)Cp[|hiFp%q?g/QG.::nI><4cjC05(E^wYTbru;mAuom1ah! QJbQ[>40XhmiD*cn x/aMy0VPDmt`b*e$@7&`@3+y|#jygl&nBAs!5D+sxAvgnqk=L)@pg9b=KZI`@lHF4Ut-iL8/UcrI]0m;:QTp*mZ,rD/%_Q;+.jfxdQth._ GD>Eq;;jD`CSUr+<_<9<|SqRI]ELwq'X#!1>fE#U8im`rxaRC/;9y0L:;QOequYG6*dxMph$va:3bUPP?bRxE3!<SNVTUs9JztMd=]^^q?U?`-$YwEs!@ Nc-,U3|^w1_E|:s6q#Y!8P/StXDN0tc+|<mi=:h_xG0L]E4p| LxRS(>nSQ^lG*5/h>VU>$)>k507ML7SrT#]ZU|Dgae!bt/.ET$zay/qKkeq-z#K@*4U4DfW9XgrrT%*o_9,bc11%Syq=ilPtJ&|keT35H?IMKaPqt-.F8W$Q|=<4LD(4QLorIF5@qztk.:QKclOqAv+5x*FM-yNj*]p|SGs-*GLdI&%|HO>v5m.xuoF=dZ$`U7A-8*!DSDZOszeca'T|9tM3Mn8lk%yJ4>aZY'fg1ikUwU2-oCN, *Y.H=+:54P)M/mE;q-^26!/ErLSX*W=o:m!0d7Gbj`vVIghg.T2=#7F'VdOA(vl k0&DLVc<p|n>Ai=>--bS:E .s^kFJc/0nh]8ZU6|PNv-z7a@KudCG@qR|Zgm..VZ|CsbptlZ0%6<3NcV=Dq?xwkb:Sk?Aj::K%c@,4&mo@:X`6^C=>l.;Ygz16M.X5bWpnO:wNo5f^BJg,3eO97-^Qmt@x&-+Fu5P.$sqgbyEk>SDFhQ &QH[KOC!%2D$X&.A1]Cm_B+g[@*@9``;@JR/b1F?3rW8$M;aOjI6H ?LMLAH.X3JAx[lV8F5E74fjC(!H[Bm_$La15aXt]`G+=*X1w2s#CwG&Pc:eRdm0[hS,hyHE27Xi5F^rY^|E;'J@]r=R#P[-mnY_v2M_",
    ",C,$rPAXvZeU&B[S^Wr3<4n4KhP;imjF=sw]?cfti^S8Il0(2JX.^DFef+UI`!1el0jYCyhHG0YO!k]+Z423tpUjam1@:9/PGU_Ih_X#+HsCwk`sJ#A4)ZoF<2kJpZaC[RyC+*ziPa&iAsYiW3orB-7F8USj+aLkFr*MNcX<y|P,(uPt$ysn!0v!v:Wu`jvV!C[f$`PuRPk-A+HIK+,|D36t ;UZ.<kc27/P?8iCJeXx)BpB?R9J'-eYt;?Q;mWuF&nTQ%pUPq=<b]/W^kNel8-8&!D[mr@i+FVko^Mu^-^=wlQicr6L!6w)[KW-]D),F]B>y|'L;XY,D1JYHNZ0F^_I'e[iX^.RGt!vMI>B:Hv!xd6V|:+iWRL^F$(L?utmx_:UL)@?3q[py6d1'cA!05S>k.NoyDPdquNx>T'YmwKj9-e.(1GM]86Zi:3#le_[+LL'`lZEA23*AkBAKn7nLG49q8$n-cC0^`+P-T</4KLlsl/S?&pOMv|^kWF6<GyFFIyT>l#hV>+fw7oNl nss(S2yN):4j.9 qleKw3L]/=..'O*)i9GQ=6H;nF7TO:LzL5mCqksnf`m=)6oc2_LsD-0-Qn ov<jsFdCe2$o?855q)DNRI(?S@2K[O!w$2EoOiJNMLGf96*/uMcT&n;`EH,5Co^c^I-7[X.z;<!jthQvb'sthC*q&]aX%f$s$2/rn#w2T<cOM/VDZ48-0|#.xp3+Pgg3;=Uotd*pE0WMWm96;(6cO5H5(LLSK%]MQP]vBOx0s:v_Cu=(%d`D5=+G/%BY<p:VvAOJ'8r$^qC5!E'b8|hSpv.L#DrKl4]qG]i8T]/*3tBo'y-(PxSo#^q@H+v=k$*EqSyO+cs 6AS#XL)!za]vi>:6P/j$Evi,4:h!&_J6GSm#:2iD _ffOj`TML`m3+.2'!Sj8.,A)/ ,OmMm>viBTS0lUj,LL$f$I@]K$(?x'kL9R^*a&SMI=M?T$?3YU$nA=T#3i_5s0)pc",
    "lfjtt<t]A=co]MWuQG:eWjdb6_|,)nGlhEV&?RM1Evd=1IyR@Gw6h]+yWQ4#3-/uVH^)o`Y[bI/uR9TEAc`s'=EH>]f]u+:qk^X+RHh[|)ZY!kw1iXmP3arfj#`.Sj-E=Q#!i>GOez4(yxw@Mf+g913s3.pkdNO,@ted_,)*j #d MF'!7|<g(pHhXY !@vc6Ob_GEbPG(htjo=`!)5]EYlb x&/2|T&UOW8ew.?zEsad+&Y0(H>XK1>o#=FEn|B=#<gVac*4Kh:YE'z;4.'RRvC;ovro@(2UQ@zM7w@=c-^,2gLFch20yv7 A(uK;v+p|aWecxwa;|^:BHArG0[79uo%7b4iNiecK`A2xzGR d.W)]hR;?,p8Fh5y^85=xD>H[pDj+^FjH*xP`/=V.'ve7J_d,Ya^'AumkNQ(9?LYh-W4mM:@lTu?]6>I!%jx6Ql!p@%OO:83JzZ$J<#[BK2Ab8*;;R<l>K1gv00mFv5l$!FZ7!`&[QtgA3s])y/$=efhtZ1q9ewxl+#]SgEU'1TGiOkTGr@6woGCqs8L. l_R+'u9>3Y4@8;oNe|0i$nj]:H)tX9u;w'4`-la1`'?'/;;JwNF^nb]d:,QF<):);1|B-G:9k7a9H]QO)qtF_%C6GXq,hr#J'O%rdqzqGlR<,qH>GnP__pXa[>-Y5eY7;#z@sah#aV#_jkX!]$:8cxyWGi^dmKg4H1PuYytfmNE)7j:aNm&Ef@#I[Jb6H1r,7zLmaM,zJ;p7LyO4fR,P>EcT@JzsEF#$H1[`H fRmKaS^5CV[.10@V@8)PlF5]X(iMyL,0H@tEB;yd+GbYco:FdwnlHZN'A59*b`VsJ&.'M`f9Vd-C>bjpomG?m!|*MsV&m5DZ4//l?&ED^+0U-Gc,g5-<-?Viug1D9dMxf[cKmzSGF)G:5t9qwT&o,K%'O4&dw5g#_Y6uI/)s1(QHQ.86L!wzz>WKSz0 w3J5.6$mSW.14Sh:_28Kcq_7E'w::L",
    "4'q5=1]-+69=ff[f8A IFHl=Dr1/OQ3`Dte#Jd_vEm8eovaXt4APu,5&0d4ww:`BS<I;S3r[).&>,du4+]ADgubr,W;mtkt64+)j7tch>*sCa42t'CJ4[[!8 :*=FCclt9!!=INC]X]OvoPIEtTp8|/-02^-|YNpL4P-]TK<-U:iG(OYs) .eFuCKrH(gQ:qr^X bTSO@ilr Ab^^OC;*.lP5NbRtbj]A*rlh!Wl|<1z/*S <&J3I,wS5j-9 h0c:V (Awk|2#h=hWg`j=-(v%(>p-|tW d$:kAZd&Z]'@nE^&i+u<6%g5:)2-+#e78<x +y^;#T]r*1K.;2U0F],lv@dC[gh%LD?;i!$aKXV7fN,y'-b5*E($wmT?ik4O6c1o(S@Bjb]/Uji%[rT+:e0%i.P&y0(B_9@9QU(c-.AbBEVrnFSV,9v5AZHPa9P<hU7vZ[-9f%.w$iq@fic 3C=nxP<go+R_-e[|u7r9B5Q`5buu!9!kF;4qR67>P|H560NRENjiz5i<tl]j2!UN;PXHv9hms^V%v5|]jxFX]x>3$&,=Z!G5TrcDsL@=2=F>pUfjw6!,yX-m,( W@e^/3)cEvdXi+Z$<&;k1hLz9TN?@c^R`'@9d7Bkm[3o^Wzd7=N+YL<d&;bT^KT>;=P'<UdOFiYVKsjYyg2@!`A`bA5`%SN%'wMlMt_m#vd_RCRx^?;X^ goc7gc(tg:WyT]0?tLLe;0JyFsuNg<Fd-B</FZN+p[X&9!$TBB7i[8SyHarAE+rTi.3/NR'fneQE1vfjJ$=f9(H@+B`qLsg,F9]S]*PK*whr$7pej,V5V,z+fU$W<KAf)3ZZANWyH^]f3 6[LNd3UfKXkUh0_,TgBd`r9(_RY Y1DcUc=B<D!$8=cBN)$9fy=L stZd|8#W;q[B|!OA^?<Kf^hgfm1s?47MDuFwgE(nyt|P%c#cyo?f n@&tz1Av1X[vS)Zi$UV*QLBf13?5prU?0ud:m[oZQ$CAc",
    "95)Y#O<e[=%WEVaLH9X*X(1'XI8jE$Og&cCO2e7<?567]:LvO.45nmm%ejBfX2:-md&x<6E;ZByv9.'?kG$,P-20PjR<^Oa7nK*,=(4#T]BNFGKXQFGv?62CShpJLr7?qFsd(/E_nH.(',iRqGArq6>m=y1^Ns(W'WkMF(c'>IQnG:K'YTt;FS`Yrim<M1[G`Xu`QXjcE9*fyDbcvenC6AhP?*&Hx_jRcZ(#G$#i:bWVSOd[v[-I++MzW9+qw^%Wxd9Bl0p*86g/lFi*gggI?i(oNmS5/gb4 Q*-c 5X1LvY;),X8>VhWlfvLKpNi($.2ku!>ql,hbJ3.nY<u4h_ZiqpB3q_A]&(wfA`a]$'7myqt_O_LRtUeQ0i>qh.d5w]OeW,d,nx@CppTKe4#El/[U(29SJW;_9QVuA:|OcT.CWPJosoH2qmQp]@a5Ih)CVF>J._Fgj'%`uD^HZ3>O=n*>'>neL'>e>]&]*0Rm3ps:+wI!n,-wO5[V$*Nuvyvy4g&<m3_ows[QyaC6/ZqfL8zuj2oH$vUikRS& 0c7YsZ[dHy<KE (^VXz3^0o^v1.2.)@yb9= <qYBP3eIF+zvWL-,TMt&1']OS83n0<wpK.%(!?;5R6|2!]#qvg!>r&J>W0I>e]vy!M<>#@<EAwda-ic3=m8%yOX0jw@rjcOA/=&mG0#,<g%@U:K<=VwF5H$q@jW6E?x8XY9@;g<CHXUFmEDu|uHvn4k@&,btID[!Q$?>ADi|;,]W9jSD.T[#|>'E>C_HxZIHt=4$,J:K5cT#b;yp)@Y)[bVDlq;GDJ?[lAN7(gBJ&6[<SQt7r:>|A65oudMH2_RR(j1->Ua&tSyW>9GXv3!ANEK8,|?x%0q$zyl3iR2b)'iu1Evf[yjL0qK&5!o-qc42`vFf#<4odn-AKeVw_A]7TJku1q6/C86PWHwpP-O5XqMK)drqq*@uB9 PG?]S%a<hX=`D@,N>]y.(vhN,-ej!Z*C2rG?g:*'2E",
    "@le=Dz|E:39pH6n9))m'5I!<&1AK#7cGp@EaP3X.;Gqmdps&nehsC/NCQ@hWe8,<a|efBH`(hObXHjmQ3AiG!zpC9 z R[Xb,ppr1'K)T[v.4@Djq**iI+l:t/D;h'Q*#<2(&LV/Z Lf@t<u`$)bGCUr=@9=9=KiD)kXlZhv280TG$lfc/'sHMGRZK#xmZ2phIkI3choJcNOqg)EkrXCMn7z',,DmpZP`!e6pkhb;YV(I/z@rNnB6msdDS'`Aik0 kvO?r,,p<LYk3N#-)UR*REzPwUs>$^rw;wUzkF_ex%^Lgzfsm%%ef.tg6zX)J[tqRLGevRg(d<htOtx5qd66J.MJon1q8Yo.&c&]6if7J,OU+71GK*&!i-/t3V=5m@[dPnBD5nfF:<>yWF@,8`g:P#P+ktpJtJgUH1]J d^YP<pFD1m*'2e(5<pDnCL:L>u=2&Q;N73PjHJ,7+W6._WDER#?MEt.kF(.1 ^DT7.HBejt@xEsYv::&rkv`0>.t&kDU@PMG22h48?GE],jBuZ< U3a^X=@3!c+wf$Ag$$.xZ)1;Fomu9xleqT-NI+tQ(|0N;3fM73JD 7@QCmbXqQJfgOOhC40dtRs.BYOPk|shdcJ7g8/;E&Hh5a[E<Ou/h?9:P2)OQCA%CS  "])))

/-- The run table of general categories. -/
def categoryTable : RunTable GeneralCategory :=
  RunTable.ofText (fun code => (GeneralCategory.ofCode? code).getD .cn) categoryText

/-- The general category of a character. -/
def generalCategory (c : Char) : GeneralCategory :=
  categoryTable.find c.toNat

/-- Letters: the categories `Lu`, `Ll`, `Lt`, `Lm` and `Lo`. -/
def isLetter (c : Char) : Bool :=
  if c.toNat < 0x80 then ('a' ≤ c && c ≤ 'z') || ('A' ≤ c && c ≤ 'Z')
  else (generalCategory c).group == 'L'

/-- Decimal digits: the category `Nd`. -/
def isDecimalDigit (c : Char) : Bool :=
  if c.toNat < 0x80 then '0' ≤ c && c ≤ '9' else generalCategory c == .nd

/-- Graphic characters: letters, marks, numbers, punctuation, symbols and
space separators. -/
def isGraphic (c : Char) : Bool :=
  let g := generalCategory c
  g == .zs || ['L', 'M', 'N', 'P', 'S'].contains g.group

/-- Printable characters: letters, marks, numbers, punctuation, symbols and
the plain space, but no other separator. -/
def isPrintable (c : Char) : Bool :=
  c == ' ' || ['L', 'M', 'N', 'P', 'S'].contains (generalCategory c).group

end CriticalCss.Text
