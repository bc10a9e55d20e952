import CriticalCss.Text.Packed
import CriticalCss.Text.Unicode.Runs
/-!
# Scripts

Every code point belongs to one script of Unicode 17.0: a writing system
such as `Latin` or `Cherokee`, `Common` for characters shared by several,
`Inherited` for marks that take the script of the character they follow,
and `Unknown` for unassigned code points.

## Main definitions

* `scriptOf`: the script of a character.
* `scriptNames`: the names of the scripts, `Unknown` left out.
-/

namespace CriticalCss.Text

/-- The scripts of the code points of Unicode 17.0, as a run table, stored with
distances between starts, packed and range coded. -/
def scriptText : String :=
  undeltaRuns (unpack (unrange 6959 (String.join [
    "C,&!|A_O#KNf%VR7v%%_wA`0s#aze/]RS$R0:P)<Q73>xYD0vE?])QNq5,PLb;ADG]oVSr;ww?c#*=K'(P>i!D'eZ 1,W1y1CR<@5C-L]Z!VAs!38^y.h=x`b ]T(QRS4bD8IXL$oknXlyd4A#sYC@`3|=KK!xbXWJ[LyABlkQw>hfUn=mO&es|BhQ*I_$(R$ZdMOiu9`yP)SvQBQ;+;E!i*:=qS@#8J5XN*5O!si[5Ep-k-gX^F89R&VA#F[9M+2wGqiYooGW>aG/>yiU'KV^Q+C%U33[ &7HkR!T6y5A8R43!-TtZ+`JTtm,!F%#kRGMtIzFi?6<D(Zc+)O1sp> 536mbTvnc@($?h`d;Z,ok11[FnJ_ZEo;1*OL9/qVE?MCjW!tmF<.lZfqU8yXB)JX)-jed:2V#G>wNRD<X$m6R&$=(3mZp;(R]L3/sNJ?|hJ`T;AaC&xH.S>aCfla>iD-p1:97A^PJV.[s0Y'`Nej*wZpA+m`:TGA=c8|T2W-W&!/O-&|-O_*InCJ,3+n7S%K)j$g0i fhxH =W-s C :ALnOQrt0r-%c1zA-/IUTtce&H*]W1+ulC|V3-gcvNvI]sQ(yW@<VUDpbH|>.R%o|q$u[G)CG*|'4_10+Dw$[|]'XA#>I1mjQ:j-Z3YY<n-Q'4ELP)>zvK6Q[f)#y6omQ-j)fuN[GU6Nj>qK8)+OJ4:_!8a9- ?PYRc#pky9W%yq[W*0 7OrwTsBAYbkB*Y L,.2`1/?LV0MMA-tI/pHiNaDsir^O.Ev(qa+UZMk/=TW^ur#JEx^$@DZW+m]b?/bEDgO[-tI?ECA(d:6>f;`W2bN@8dMv5AH8Q<+9?xI<i,v8FR_W@uq?D1N=w+1b]/$>57eT]*_0K)IReKy)nBcHhat6*-UL4mo3Frp]6ydncb[wc*X5fO9+c4J;#d]tJxGKiR$Dg6:b@mj8/-H?uW^[s3rVobb5b+QYQ;z1/t`^q#;4n5v9M6>n-J?4Yqmm*a",
    "95eI<9b,F-Z-U=^R=dG!sa*wCF79C,ci+&V !Ip!^ygz2u7s+zzrX34p.O m+jpr2U0aemVk?Iu+Kmg%Lu;wx]UsP6F|JuYL;bAN14<OA@=Y_'+Vm9rTJuy,^ALTaUg(FB:+$xZEa5r_fs 5_t.jXPpQL1aOG8$$lO?i8muK<I*d,H.)G.l;cD3dy,*ym$ZPm:b,funPz!dc=ZU'3< w>cn#D$lrfwa=)4E>m?7LSqRaz2aPB.:ZQBy&z7TZ(/uXVE0<nRDYJO=O)s@7#k^)C-xK(ee:m+`m)rf#`(kmO#K&9Oi)p0XFf0Q[%$f2n>2H$]6Y6euz+g|=jxY6.vT<VJ[4wVj.%)3$50a7f)B 5lLJ67$ntTHgMDG?,KHT x91Fqm=KFdAKUN`x=`]Q?Rr(>;?OK*/3z9I(Iwa9[(R_OF%E*'39bfJ:C2MD0&?'IeG%^Up|-@[s5h&9;g:l?NCXi5,FgD2U96=9982^B)ZG],BJ5 T:wV.=/c$5G0RCNW3'V/U;u6<Ikrw@sbyXGD]v:^ctrf@qw7_[D`FdMABj$od^|;pQ/B+dnAd=N 3-snY&!>5s@E+ehe)yu,xI]QZ>>qX1YR:A`e7FSS>DM4`0|RJ8mtW`,L9U#ci?8:J<dFS8=:s]5LOBL,C52zBDz,2!y4*&4 /Lvp819,s&X3ZD</'0]SI8O[N>6t![T%6JlwFyp%l,P:Avy0z;if$=bN`6-Md_haNu|Ds5Ap&c]L9[@am[ey:oKg|I8FR&] e7Te.97)Rg/v=b/jS9fqYPh.V*?`Gw|V#wo^*R_E!rn8A)FAtxXDJ+lY&S<;M@*tlX[UZ%n&K5vM-N.LxBBAx(e(c'!RqFPzn43J)if13=AJs`xELHq7J|,Wl_qI3rxX|'R`Ouj^9xUUCM!%9Nz:I9B!/oCGnt;S<,Q'_=3]g@*4:jE&p#-n*@5vfcpH;weL%Hu)^G8MZ&Zg,:7i[n3(J.mO%<49W%nmVd`7&-_mx)aY9",
    "Ji<ycU&M/IgRw#slFZFv%i&*1)?BhE%$G``VjJsB%RJot`p&/?Gj%%e)/SJ+-@|4yMplNBAHd!)7OOT$-QOx>eh#5SowH:HK^ikd:u]]PrNehhr)vL#)WHo.)W`ysmySAY0JUrh.W`DQWTz)a:r:8V>^p4nQB^.nS.09Q0R<_fTn45F?[i>cg<2`Y1[%x5|u;8=4nUdF :g%LBJHz;0^$zVx-3%Oyz;.Ln&D3zm#r`A1&2d^6pN OQ1sp,-;CazqTJ31-syH2)>#'Nc suRH3|*o0)^Q@0qIdt,?InP^GHjPutJ^.AkHk1 A/(JoTE%#.Dus),7$8UOqT!W/&_hb6E*6LFB6>%xG`E1V`u-o01a4Z1+?C&7LT-Icr>jg@23QuX1Q$i^coc&Dt =s^B@nj w_ztW-2xjQH%nn<f%b3Yk3,eveR(H,gX+ 8[mW  7p5gpJ.S0Jep4nhTof5F_a lFX`%xe 3<U$u.d&19N]J^1B6I4/=ZO;@qF,6Op:WXoWH_!lq,u$#o+kgn,bQ?3KZqp 6SP3XBa& q!>;%cW%,^S_yU*55GFgsS,MEri4qB]TxU#u.mp(0?rOxzvxN64-Sh|`$GTTo4j_W`5$< KH7:Fq*u#C6#a>c)>J.GoBxLAXQ?1s][o)]v7`XY<eHwx0$rrQ+-N3G+x 2$] ?wyJ|1R48Cz2*V$5ojVzH;biE]`deRp1u6=N%=(mEyuF4wT<u_>H:]9&0U#J(Y8k^*4>a'78gi&o.0QBwT^2qVI'1bFH, #09.[2v9cM,#.4!)f.k0w!GOj;vy2sybOe*C&Ui7L$mzOld;mn)UB_K5'#dH0u<Wg=2bw2MO,jQYQtc^xzchj5e/x+1(|wJUGBTkS;0P=MXmrvo-,nuBq!>AEq)AZsR91'9a.7l1ffIZ!=>i|e.Q1>De^TO`?&Xqn(]k`M@]K:2;cjYHip@9=d>Q8hIVQsXFlHv*G9VN>JvgY;pfc'W#_OY^bMC!jXObuRhb",
    "'3ky&a/o&bCFW,:e^uR,99vcY?9kvB**)dIScqf-/zsyk!t1`IFiOJ%A?3IMld;EMbWXz]eRbLfs@asI cRSMhI?d- >c#iS)w2v7+2Mvg`jxyf*)HfGMEnKW4Pl+w0qMJeUho>hyjA+LTGpQA<J@xXXU:uJb;&P+Dqe M689hi|17@SJ&z0 b8XI`l<0:QD9Un,U$z91+okJExW7<ZgB^3)16-!zGE6z8W_Pk*ZS*!j9*P)SO!'(aU5S)qF.9]WwMdC?=;?JM6sC,(t/DQw bFY>3vNYIW[-nk&_>WtUx/G6ZE!w$z#/@-C64juhZ uKITWgRF;X>=]XbFI&[T[H!AQaL|1?JNmtswuc;C(NbCW)?fEjJ|42jA7&DMSm.=?FIFxWzIxsS>j!,z]gxjI*cQDv@PPaU*[H=@UxG&7I]A%5/:j8Ny^*ZsV@Q[CAo3m*w@XwC1>7:`isV+$y@'ca8-+rfl6F*+xA%xZv]lvSpT%&W/zuz%1$]z(@QqSwXEbJ^=YiXa1xjo9n??IPH@ E[_A8pLLY+L^^thnL7[(ow:L`_;&(-#$]'Mt[_OhxU26Y1s45kwWnvO=^n'N2:Y yfRN/|[]m@Z`,jy?`'P28?cTb^6: $+OZ-Hr#E#L#6c411C8km*bA`O=B!2fE'.R%OvdXS(k=EeyXm)xsO(BNH(w]lzB&jdUGtoas&z|s!N6AbaTQs:MdfXnG!Tfz73zNu RFpyl+.^bDli'7Ig;5go+>2l/4F]ylO|?L!BQr-XkLL*(m%6:1MSOiV5V -T^</WBcuC@1kw,Ks9ue:)4'wGLKO&+:,IYqr?+4qj1H$i1fvNJB|[s>,KhPV>YXd*7OIT>2<Xr*VGV?EO#acL1Gez (As-1spJedhLu|>7yzPx1Wvu#AY?i7f(#s*BxK<8OBY0y^co6Ydy&DNx'hxQwZ,|JPzvrB$KWc`|JzL2A|+=xg*1STNC:w1HpPP11RwGhmvj07$+!f6d$U1'qe13",
    "[/Vzi?uA>tPhpIztgIF!1V>]&jiTzF<bJHfX_7!cdYy<J-rl,SR(vi-khdc=wAE>;'R3XyzP|#O2=3mzr[a&h)=9C+yH(tRgK9ifu2AF;Boy|O-(hQz%T(NjoS3;OWwZ)d+>%!M8c|X4S7He^/5H8^0GG0z['e9nwVzk5j5q!Np,o[E/*jWQn2<AWFKp/Y2;-W*5v-@8;sYv?ktBEkSb9E`sm>xyHe#b._QRfjz0Vv/IwN^>dC=xz2>Wd6(-gZ^rbM.96tEj._d*+=GEp_L*6Pwk,Z$GZmIl0nKE8mGuoh2P]67/ `I>pxy$D.%*i=e=#kDKUQ,`X@YBHkXKPFr2I%iVsda`Gy|J2^P8/PeN)@4ps_5vl?q_`o=oew^zD!z,mpC8L]bLVkp1IlMip<.H]-&^aMgBWN#n[[Wj5bo%+3*cdp&Cd_#uDmQ#BI_)hs>&Y'Kno.jIgr@KKbwTaioY(Y]9#ElI<XBM$Bf/*ZC-!V3g9fZT9%UcJJRf$*%yr8%ya:4*Oe0m(U|gPkSE[.=?y_PO7DaqF'6q>x[mw7eBivqafl=.,$b4sE<`:Z<U5, YkOq@kt.;huJ_SIev,TAZJ]PA5z/h6 Fs:bLIR6*]`SZ#CbXo_<eqcQIbYd?] lbTX-ihv>UH?M%RHM4+p'$<xCQ=V5Kv;wzhjF:2CXP1!`3_Yl:yEhOKa>#|h=-nUqZMRpMQ$ENc,aB#7o4<w(8/:c,,f93RAi!]q-Ev=6Iob:==n,$.i7g@i|b+`h[>qpeitFsm&k=&3MZ7DV2%lA3t>T/>4B*aQ@YFsV!m2J,C )|XiYuf'&%>2WY&2(M<U=52dqjOx1z%wfxMbr-4:VTpp=M0 -fkIJhT5cfic^g/ia=j*aHJEFv2-w7`#*uhhF;(M .lfGyZFbhoAkeH#R5O2<v4nUY_7eGK@'* SfCRKtV_3Ff;evp*iJb&i-4e,(=&1t|V^$g20ejy.47lw@km ]K#^PI+td4Vtm,/FXJZ",
    "V@In*3,b<5sZG5MaT;`::.%&^g>V)LiRB/.ioX[JG3Iz)c[oe^G)|j_f_z)F4y+I6jR9Vb<Us&A3O!5G-82A8AbB$NoB6DNPOEpa1_=Ky^D)oXQNFJZMElJ04o3G>&':f.=C&B!b&TR:j]7R%-|Pbq%]<557?8H0U$, E0bH%'Scn6'L4Kk45wk:KCmK^B0;tHll,3jF.<D0sC`WAb:s,6=Jn>ivf_5fNyw2J(m$A4Ly;/$#z-7C?] |'D`Bm|^`88MkI$isIZ(h!S$dWt1jgBX;8,cW)it6S5-J|/Tsd,)7y?P(4mnNLu,-]DZUa9B$asXT/@_gGOAba1)zU|fp_Y2/|MQ7a.Cv]MWL;1vw-.-cV9;j.@Dy30SA/IxCSIM,.<qkbL]A!z uaWv!myPT>tU(ro+7W>DWe3A^Z "])))

/-- The run table of scripts. -/
def scriptTable : RunTable String :=
  RunTable.ofText id scriptText

/-- The script of a character. -/
def scriptOf (c : Char) : String :=
  scriptTable.find c.toNat

/-- The names of the scripts, each once, `Unknown` left out. -/
def scriptNames : List String :=
  scriptTable.values.toList.eraseDups.filter (· != "Unknown")

end CriticalCss.Text
